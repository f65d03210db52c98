import ByteMachine.System

/-! Running a system until it halts, meets a fault or has used up its cycles. -/

namespace ByteMachine

structure Run where
  system : System
  /-- The cycles after which the run ends in any case. -/
  limit : Option Nat
  /-- The cycles that went through so far. -/
  cycles : Nat

/-- A run that has ended: the system, and the number of cycles or the fault that ended it. -/
structure Finished where
  system : System
  result : Except Fault Nat

namespace Run

/-- A run starts the machine, and the timer's period, at the instant `now`. -/
def start (s : System) (limit : Option Nat) (now : Nat) : Run where
  system := { s with machine := { s.machine with running := true }, timer := s.timer.reset now }
  limit := limit
  cycles := 0

def atLimit (r : Run) : Bool :=
  match r.limit with
  | some n => n ≤ r.cycles
  | none => false

/-- Ends the run if its machine no longer runs or its cycles are used up; runs one more cycle
otherwise. A cycle that meets a fault ends the run and is not counted. -/
def advance (r : Run) (now : Nat) : Run ⊕ Finished :=
  if !r.system.machine.running then .inr ⟨r.system, .ok r.cycles⟩
  else if r.atLimit then
    let s := r.system
    .inr ⟨{ s with machine := s.machine.halt, log := s.log.push (.stopping r.cycles) },
      .ok r.cycles⟩
  else
    match r.system.step now with
    | (s, none) => .inl { r with system := s, cycles := r.cycles + 1 }
    | (s, some fault) => .inr ⟨s, .error fault⟩

/-- Advances a run up to `fuel` times; `clock` gives the instant of the start and then of each
cycle. -/
def finish (clock : Nat → Nat) : Nat → Run → Option Finished
  | 0, _ => none
  | fuel + 1, r =>
    match r.advance (clock (r.cycles + 1)) with
    | .inl r => r.finish clock fuel
    | .inr done => some done

end Run

namespace System

/-- Cycles are counted below this number. -/
def cycleRange : Nat := UInt64.size

/-- Runs the system to its end. A run without a limit that has no end within the range of the
cycle counter has no result. -/
def run (s : System) (limit : Option Nat) (clock : Nat → Nat) : Option Finished :=
  (Run.start s limit (clock 0)).finish clock (limit.getD cycleRange + 1)

end System

end ByteMachine
