import ByteMachine.Proofs.Ending

/-! Runs beside the same runs with a clock that stands still. While a timer without a period ticks
whenever it is asked, and any other has not seen its period elapse, neither run can tell what time
it is. -/

namespace ByteMachine

namespace System

variable {s : System} {now : Nat}

/-- The system with a timer that was started at the instant 0, where its clock stands still. -/
def frozen (s : System) : System := { s with timer := s.timer.reset 0 }

end System

def Finished.frozen (done : Finished) : Finished := { done with system := done.system.frozen }

def Run.frozen (r : Run) : Run := { r with system := r.system.frozen }

namespace System

variable {s : System} {clock : Nat → Nat} {limit : Option Nat} {k : Nat}

end System

end ByteMachine
