import ByteMachine.Proofs.Frozen
import ByteMachine.Proofs.Loading
import ByteMachine.Proofs.Session

/-! Sessions from their arguments to their exit. The first stage that fails decides how a session
ends, whatever is wrong with the later ones; the logger only decides which of the messages on the
way there are shown. -/

namespace ByteMachine.CommandLine

/-- A message to the log, whether or not it is shown. -/
structure Note where
  source : LogSource
  level : Level
  text : String

/-- What a session comes to: its exit code, its output, all that it logs, and the messages of the
error that it reports, if any. -/
structure Verdict where
  code : Nat
  output : List Byte
  notes : List Note
  error : Option (List String)

def Logger.shown (logger : Logger) (filter : logger.Filter) (notes : List Note) : List String :=
  notes.filterMap fun note => logger.line? filter note.source.target note.level note.text

/-- The exit of a session; the logger decides which of its notes are shown. -/
def Verdict.exit (v : Verdict) (logger : Logger) (spec : Option String) (trace : Bool) : Exit :=
  let (filter, warnings) := logger.start spec trace
  ⟨v.code, v.output, warnings ++ logger.shown filter v.notes, v.error⟩

/-- The numbers among the arguments: the milliseconds of the timer's period and, if the cycles are
limited, the limit. -/
structure Arguments.Give (args : Arguments) (millis : Nat) (limit : Option Nat) : Prop where
  timerMillis : Text.readWord args.timerMillis.toList = .ok millis
  maxSteps : (args.maxSteps = none ∧ limit = none) ∨
    ∃ text n, args.maxSteps = some text ∧ Text.readWord text.toList = .ok n ∧ limit = some n

namespace Verdict

section

variable {logger : Logger} {filter : logger.Filter} {warnings : List String}
variable {spec : Option String} {trace : Bool}

end

end Verdict

variable {args : Arguments} {content : Except ReadError ByteArray}
variable {files : String → Except ReadError ByteArray} {clock : Nat → Nat}

theorem Job.readLimit_eq_ok_iff {text? : Option String} {limit : Option Nat} :
    Job.readLimit text? = .ok limit ↔
      (text? = none ∧ limit = none) ∨
        ∃ text n, text? = some text ∧ Text.readWord text.toList = .ok n ∧ limit = some n := by
  cases text? with
  | none => simp [readLimit, eq_comm]
  | some text =>
    cases hread : Text.readWord text.toList with
    | ok n => simp [readLimit, hread, Except.mapError, Except.map, eq_comm]
    | error cause => simp [readLimit, hread, Except.mapError, Except.map]

theorem Arguments.give_iff {millis : Nat} {limit : Option Nat} :
    args.Give millis limit ↔
      Text.readWord args.timerMillis.toList = .ok millis ∧
        Job.readLimit args.maxSteps = .ok limit := by
  rw [Job.readLimit_eq_ok_iff]
  exact ⟨fun h => ⟨h.timerMillis, h.maxSteps⟩, fun h => ⟨h.1, h.2⟩⟩

theorem Arguments.Give.prepare {millis : Nat} {limit : Option Nat} {program : List Byte}
    (h : args.Give millis limit) (hprogram : Program.ofFile content = .ok program) :
    Job.prepare args content = .ok ⟨millis, limit, program⟩ :=
  Job.prepare_eq_ok_iff.2
    ⟨(Arguments.give_iff.1 h).1, (Arguments.give_iff.1 h).2, hprogram⟩

/-- Shows what is at least as important as the one level that it is set to, whatever its target. -/
def Logger.plain : Logger where
  Filter := Nat
  read
    | "off" => (0, [])
    | "warn" => (Level.warn.rank, [])
    | spec => (Level.error.rank, ["no such level: " ++ spec])
  allow _ _ level := level.rank
  line? rank target level text :=
    if level.rank ≤ rank then some (level.name ++ " " ++ target ++ ": " ++ text) else none

end ByteMachine.CommandLine
