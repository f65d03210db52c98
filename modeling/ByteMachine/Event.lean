import ByteMachine.Level
import ByteMachine.Trace

/-! What the machine reports to the log while it loads and runs. -/

namespace ByteMachine

inductive Event where
  | loading (size : Nat)
  | trace (shown : Trace)
  /-- Interrupt `n` is dispatched, with mask and status as they were before. -/
  | interrupt (n : Fin 8) (mask status : Byte)
  | halted (pc : Nat)
  | stopping (cycles : Nat)
  | interruptReturn (pc : Nat)
  /-- A return to `pc` though no interrupt had been taken. -/
  | strayReturn (pc : Nat)
  deriving DecidableEq

namespace Event

def level : Event → Level
  | .loading _ => .debug
  | .trace _ => .trace
  | .interrupt _ _ _ => .info
  | .halted _ => .info
  | .stopping _ => .warn
  | .interruptReturn _ => .debug
  | .strayReturn _ => .warn

def text : Event → String
  | .loading size => "loading " ++ Radix.decimal size ++ " bytes"
  | .trace shown => shown.line
  | .interrupt n mask status =>
    "INTERRUPT " ++ Radix.decimal n ++ " im=" ++ Radix.bits mask.toNat ++ " is=" ++
      Radix.bits status.toNat
  | .halted pc => "halted at " ++ Radix.address pc
  | .stopping cycles => "stopping after " ++ Radix.decimal cycles ++ " cycles"
  | .interruptReturn pc => "interrupt return to " ++ Radix.address pc
  | .strayReturn pc => "IRET at " ++ Radix.address pc ++ " with no interrupt taken"

end Event

end ByteMachine
