import ByteMachine.Opcode
import ByteMachine.Registers

/-! Instructions with their operands read: what an opcode and the bytes after it say to do. -/

namespace ByteMachine

inductive Instruction where
  | unary (op : UnaryOp) (a : Reg)
  | binary (op : BinaryOp) (a b : Reg)
  | nop
  | hlt
  | ldi (a : Reg) (v : Byte)
  /-- Loads `a` from the address in `b`. -/
  | ld (a b : Reg)
  /-- Stores `b` at the address in `a`. -/
  | st (a b : Reg)
  | push (a : Reg)
  | pop (a : Reg)
  | prn (a : Reg)
  | pra (a : Reg)
  | call (a : Reg)
  | ret
  /-- Requests the interrupt whose number is in `a`. -/
  | int (a : Reg)
  | iret
  /-- A jump whose condition holds. -/
  | jump (condition : Condition) (a : Reg)
  /-- A jump whose condition does not hold. Its operand is not looked at. -/
  | skip (condition : Condition)
  deriving DecidableEq, Repr

namespace Instruction

def operation : Instruction → Operation
  | .unary op _ => .alu (.unary op)
  | .binary op _ _ => .alu (.binary op)
  | .nop => .control .nop
  | .hlt => .control .hlt
  | .ldi _ _ => .control .ldi
  | .ld _ _ => .control .ld
  | .st _ _ => .control .st
  | .push _ => .control .push
  | .pop _ => .control .pop
  | .prn _ => .control .prn
  | .pra _ => .control .pra
  | .call _ => .control .call
  | .ret => .control .ret
  | .int _ => .control .int
  | .iret => .control .iret
  | .jump c _ => .control (.jump c)
  | .skip c => .control (.jump c)

/-- The number of bytes of the instruction: the opcode and the operands of which it tells. -/
def length (i : Instruction) : Nat := 1 + Opcode.operandCount i.operation.opcode

/-- Whether the instruction moves the program counter itself, as the mark in its opcode says. -/
def setsPc (i : Instruction) : Bool := Opcode.setsPc i.operation.opcode

theorem length_eq (i : Instruction) :
    i.length =
      match i with
      | .nop | .hlt | .ret | .iret => 1
      | .unary _ _ | .push _ | .pop _ | .prn _ | .pra _ | .call _ | .int _ | .jump _ _ | .skip _ => 2
      | .binary _ _ _ | .ldi _ _ | .ld _ _ | .st _ _ => 3 := by
  rw [length]
  cases i with
  | unary op _ => cases op <;> simp [operation, Operation.opcode, Opcode.operandCount]
  | binary op _ _ => cases op <;> simp [operation, Operation.opcode, Opcode.operandCount]
  | jump c _ => cases c <;> simp [operation, Operation.opcode, Opcode.operandCount]
  | skip c => cases c <;> simp [operation, Operation.opcode, Opcode.operandCount]
  | _ => simp [operation, Operation.opcode, Opcode.operandCount]

theorem setsPc_eq (i : Instruction) :
    i.setsPc =
      match i with
      | .call _ | .ret | .int _ | .iret | .jump _ _ | .skip _ => true
      | _ => false := by
  rw [setsPc]
  cases i with
  | unary op _ => cases op <;> simp [operation, Operation.opcode, Opcode.setsPc, Opcode.setsPcBit]
  | binary op _ _ =>
    cases op <;> simp [operation, Operation.opcode, Opcode.setsPc, Opcode.setsPcBit]
  | jump c _ => cases c <;> simp [operation, Operation.opcode, Opcode.setsPc, Opcode.setsPcBit]
  | skip c => cases c <;> simp [operation, Operation.opcode, Opcode.setsPc, Opcode.setsPcBit]
  | _ => simp [operation, Operation.opcode, Opcode.setsPc, Opcode.setsPcBit]

end Instruction

end ByteMachine
