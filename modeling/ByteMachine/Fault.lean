import ByteMachine.Byte
import ByteMachine.Text.Radix

/-! The conditions that stop the machine. None of them is recovered from. -/

namespace ByteMachine

/-- Why the output did not take what was written to it. -/
inductive OutputError where
  | full
  | flushFailed
  deriving DecidableEq, Repr

def OutputError.message : OutputError → String
  | .full => "sink full"
  | .flushFailed => "flush failed"

inductive Fault where
  | outOfBounds (addr : Nat)
  | invalidRegister (operand : Byte)
  | divisionByZero
  | unsupportedOperation (opcode : Byte)
  | invalidInterrupt (number : Byte)
  /-- An arithmetic operation on two operands that was given one. -/
  | missingOperand
  | stackOverflow
  | stackUnderflow
  | output (cause : OutputError)
  deriving DecidableEq, Repr

namespace Fault

def message : Fault → String
  | .outOfBounds addr => "address " ++ Radix.address addr ++ " is outside memory"
  | .invalidRegister operand =>
    "register index " ++ Radix.decimal operand.toNat ++ " is outside R0-R7"
  | .divisionByZero => "division by zero"
  | .unsupportedOperation opcode => "unsupported operation " ++ Radix.bits opcode.toNat
  | .invalidInterrupt number =>
    "interrupt number " ++ Radix.decimal number.toNat ++ " is outside 0-7"
  | .missingOperand => "ALU operation needs a second operand"
  | .stackOverflow => "stack overflow"
  | .stackUnderflow => "stack underflow"
  | .output cause => "output error: " ++ cause.message

/-- The fault's message and, for an output fault, that of its own cause. -/
def causes : Fault → List String
  | .output cause => [(Fault.output cause).message, cause.message]
  | fault => [fault.message]

end Fault

end ByteMachine
