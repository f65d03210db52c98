import ByteMachine.Machine.Cycle
import ByteMachine.Machine.Load
import ByteMachine.Timer

/-! The machine with its timer and its log. -/

namespace ByteMachine

structure System where
  machine : Machine
  timer : Timer
  log : Array Event
  deriving DecidableEq

namespace System

/-- The system after some work of its machine. -/
def absorb (s : System) (o : Outcome) : System :=
  { s with machine := o.machine, log := s.log ++ o.events }

/-- The timer's answer at `now` and the timer after it. A cycle that dispatches an interrupt does
not ask. -/
def tick (s : System) (now : Nat) : Bool × Timer :=
  match s.machine.pending? with
  | some _ => (false, s.timer)
  | none => s.timer.poll now

def step (s : System) (now : Nat) : System × Option Fault :=
  let (tick, timer) := s.tick now
  let o := s.machine.step tick
  ({ s with timer := timer }.absorb o, o.fault)

def load (s : System) (program : List Byte) : System × Option Fault :=
  let o := s.machine.load program
  (s.absorb o, o.fault)

/-- The system after its output and its log have been taken away. -/
def drain (s : System) : System :=
  { s with
    machine := { s.machine with sink := { s.machine.sink with written := #[] } }
    log := #[] }

end System

end ByteMachine
