import ByteMachine.CommandLine.Arguments
import ByteMachine.CommandLine.Failure
import ByteMachine.CommandLine.Logger
import ByteMachine.Run

/-! A run of the program from its arguments to its exit. The stages come in a fixed order: the two
numbers are read, then the file, then the machine runs; the first that fails decides the exit. -/

namespace ByteMachine.CommandLine

structure Job where
  timerMillis : Nat
  limit : Option Nat
  program : List Byte
  deriving DecidableEq, Repr

namespace Job

def readLimit : Option String → Except Failure (Option Nat)
  | none => .ok none
  | some text => (Text.readWord text.toList).mapError .maxSteps |>.map some

/-- Reads the numbers among the arguments and the program from its file's content. -/
def prepare (args : Arguments) (content : Except ReadError ByteArray) : Except Failure Job := do
  let timerMillis ← (Text.readWord args.timerMillis.toList).mapError .timerMillis
  let limit ← readLimit args.maxSteps
  let program ← (Program.ofFile content).mapError (.load args.program)
  return ⟨timerMillis, limit, program⟩

/-- A fresh system with the job's program in memory, at the instant `now`. -/
def boot (job : Job) (now : Nat) : System × Option Fault :=
  System.load ⟨.fresh .unbounded, .ofMillis job.timerMillis now, #[]⟩ job.program

end Job

/-- What a session asks of its surroundings, and what it puts out there. -/
structure Surroundings (m : Type → Type) where
  now : m Nat
  /-- The directives for the logger, if any are given. -/
  directives : m (Option String)
  /-- The content of the file at a path. -/
  content : String → m (Except ReadError ByteArray)
  write : List Byte → m Unit
  /-- Puts out lines of the log. -/
  log : List String → m Unit
  /-- Reports an error by its messages. -/
  report : List String → m Unit

section Session

variable {m : Type → Type} [Monad m] (around : Surroundings m) (logger : Logger)

/-- Puts out what a system has written and logged, and leaves it without. -/
@[specialize] def emit (filter : logger.Filter) (s : System) : m System := do
  around.write s.machine.sink.written.toList
  around.log (logger.lines filter s.log.toList)
  return s.drain

/-- Advances a run up to `fuel` times and puts out what each cycle yields as it comes. -/
@[specialize] def follow (filter : logger.Filter) : Nat → Run → m (Option Finished)
  | 0, _ => return none
  | fuel + 1, r => do
    match r.advance (← around.now) with
    | .inl r => follow filter fuel { r with system := ← emit around logger filter r.system }
    | .inr done => return some { done with system := ← emit around logger filter done.system }

/-- Says how a run has ended, which decides how the session does. -/
@[specialize] def conclude (filter : logger.Filter) :
    Option Finished → m (Option (Except Failure Unit))
  | none => return none
  | some ⟨_, .ok cycles⟩ => do
    around.log (logger.cyclesLine? filter cycles).toList
    return some (.ok ())
  | some ⟨s, .error fault⟩ => return some (.error (.machine s.machine.trace fault))

/-- Runs a job to its end. -/
@[specialize] def Job.perform (filter : logger.Filter) (job : Job) :
    m (Option (Except Failure Unit)) := do
  let (s, fault?) := job.boot (← around.now)
  let s ← emit around logger filter s
  match fault? with
  | some fault => return some (.error (.copy fault))
  | none =>
    let r := Run.start s job.limit (← around.now)
    let fuel := job.limit.getD System.cycleRange + 1
    conclude around logger filter (← follow around logger filter fuel r)

/-- The work of a session once it logs. -/
@[specialize] def work (filter : logger.Filter) (args : Arguments) :
    m (Option (Except Failure Unit)) := do
  match Job.prepare args (← around.content args.program) with
  | .ok job => job.perform around logger filter
  | .error failure => return some (.error failure)

/-- Reports the failure, if any, and comes to the exit code. -/
@[specialize] def leave : Option (Except Failure Unit) → m (Option Nat)
  | none => return none
  | some (.ok ()) => return some 0
  | some (.error failure) => do
    around.report failure.messages
    return some 1

/-- The whole session, which comes to its exit code. A machine that never stops has none. -/
@[specialize] def session (args : Arguments) : m (Option Nat) := do
  let (filter, warnings) := logger.start (← around.directives) args.trace
  around.log warnings
  leave around (← work around logger filter args)

end Session

/-- What there is to see of a session from outside. -/
structure Record where
  /-- How often the session asked for the time. -/
  looks : Nat
  output : Array Byte
  log : Array String
  /-- The messages of the error that was reported, if any. -/
  error : Option (List String)

/-- Surroundings that keep a record. The session finds there the directives, the files and a clock
that gives the instants at which it looks at the time. -/
def Surroundings.recording (spec : Option String)
    (files : String → Except ReadError ByteArray) (clock : Nat → Nat) :
    Surroundings (StateM Record) where
  now := modifyGet fun r => (clock r.looks, { r with looks := r.looks + 1 })
  directives := pure spec
  content path := pure (files path)
  write bytes := modify fun r => { r with output := r.output ++ bytes }
  log lines := modify fun r => { r with log := r.log ++ lines }
  report messages := modify fun r => { r with error := some messages }

/-- How the program ends: its exit code, its output, the lines of its log, and the messages of the
error that it reports, if any. -/
structure Exit where
  code : Nat
  output : List Byte
  log : List String
  error : Option (List String)
  deriving DecidableEq, Repr

/-- The session in recording surroundings. -/
def run (logger : Logger) (args : Arguments) (spec : Option String)
    (files : String → Except ReadError ByteArray) (clock : Nat → Nat) : Option Exit :=
  let (code?, r) := (session (.recording spec files clock) logger args).run ⟨0, #[], #[], none⟩
  code?.map fun code => ⟨code, r.output.toList, r.log.toList, r.error⟩

end ByteMachine.CommandLine
