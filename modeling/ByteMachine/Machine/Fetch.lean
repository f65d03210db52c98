import ByteMachine.Instruction
import ByteMachine.Machine.Basic

/-! Reading the instruction at the program counter. Faults come in the order of the bytes: the
opcode first, then each operand. -/

namespace ByteMachine.Machine

/-- The byte `offset` past the opcode. -/
def operand (m : Machine) (offset : Nat) : Except Fault Byte := m.memory.read (m.pc + offset)

/-- The register named by the byte `offset` past the opcode. -/
def operandReg (m : Machine) (offset : Nat) : Except Fault Reg := do
  Reg.ofOperand (← m.operand offset)

/-- The instruction that the operation makes with its operands. A jump whose condition does not
hold has none. -/
def instruction (m : Machine) : Operation → Except Fault Instruction
  | .alu (.unary op) => return .unary op (← m.operandReg 1)
  | .alu (.binary op) => return .binary op (← m.operandReg 1) (← m.operandReg 2)
  | .control .nop => return .nop
  | .control .hlt => return .hlt
  | .control .ldi => return .ldi (← m.operandReg 1) (← m.operand 2)
  | .control .ld => return .ld (← m.operandReg 1) (← m.operandReg 2)
  | .control .st => return .st (← m.operandReg 1) (← m.operandReg 2)
  | .control .push => return .push (← m.operandReg 1)
  | .control .pop => return .pop (← m.operandReg 1)
  | .control .prn => return .prn (← m.operandReg 1)
  | .control .pra => return .pra (← m.operandReg 1)
  | .control .call => return .call (← m.operandReg 1)
  | .control .ret => return .ret
  | .control .int => return .int (← m.operandReg 1)
  | .control .iret => return .iret
  | .control (.jump condition) =>
    if condition.holds m.regs.flags then return .jump condition (← m.operandReg 1)
    else return .skip condition

def fetch (m : Machine) : Except Fault Instruction := do
  let opcode ← m.operand 0
  match Operation.decode opcode with
  | some op => m.instruction op
  | none => .error (.unsupportedOperation opcode)

end ByteMachine.Machine
