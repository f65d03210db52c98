import ByteMachine.Machine.Execute
import ByteMachine.Machine.Fetch

/-! One cycle: either an interrupt is dispatched, or the timer is asked and the instruction at the
program counter is executed. -/

namespace ByteMachine.Machine

/-- The machine after the timer was asked. -/
def poll (tick : Bool) (m : Machine) : Machine := if tick then m.request timerInterrupt else m

/-- Shows the machine, then fetches and executes one instruction. -/
def executeNext (m : Machine) : Outcome :=
  .after (.trace m.trace) <|
    match m.fetch with
    | .ok i => m.execute i
    | .error fault => .stopped m fault

/-- One cycle; `tick` is the timer's answer, which counts only if the timer is asked. -/
def cycle (tick : Bool) (m : Machine) : Outcome :=
  match m.pending? with
  | some n => m.dispatch n
  | none => (m.poll tick).executeNext

/-- One cycle, after which a machine that met a fault no longer runs. -/
def step (tick : Bool) (m : Machine) : Outcome :=
  let o := m.cycle tick
  match o.fault with
  | some _ => { o with machine := o.machine.halt }
  | none => o

end ByteMachine.Machine
