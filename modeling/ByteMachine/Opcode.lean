import ByteMachine.Alu

/-! The opcode table. An opcode reads `AABCDDDD`: `AA` is the number of operand bytes that
follow, `B` marks an arithmetic operation and `C` an operation that moves the program counter
itself. -/

namespace ByteMachine

/-- Operations outside the arithmetic and logic unit. -/
inductive ControlOp where
  | nop
  | hlt
  | ldi
  | ld
  | st
  | push
  | pop
  | prn
  | pra
  | call
  | ret
  | int
  | iret
  | jump (condition : Condition)
  deriving DecidableEq, Repr

namespace ControlOp

def mnemonic : ControlOp → String
  | .nop => "nop"
  | .hlt => "hlt"
  | .ldi => "ldi"
  | .ld => "ld"
  | .st => "st"
  | .push => "push"
  | .pop => "pop"
  | .prn => "prn"
  | .pra => "pra"
  | .call => "call"
  | .ret => "ret"
  | .int => "int"
  | .iret => "iret"
  | .jump .always => "jmp"
  | .jump .equal => "jeq"
  | .jump .notEqual => "jne"
  | .jump .greater => "jgt"
  | .jump .less => "jlt"
  | .jump .lessOrEqual => "jle"
  | .jump .greaterOrEqual => "jge"

end ControlOp

inductive Operation where
  | alu (op : AluOp)
  | control (op : ControlOp)
  deriving DecidableEq, Repr

namespace Operation

def all : List Operation :=
  [.control .nop, .control .hlt, .control .ret, .control .iret,
    .control .push, .control .pop, .control .prn, .control .pra,
    .control .call, .control .int,
    .control (.jump .always), .control (.jump .equal), .control (.jump .notEqual),
    .control (.jump .greater), .control (.jump .less), .control (.jump .lessOrEqual),
    .control (.jump .greaterOrEqual),
    .alu (.unary .inc), .alu (.unary .dec), .alu (.unary .not),
    .control .ldi, .control .ld, .control .st,
    .alu (.binary .add), .alu (.binary .sub), .alu (.binary .mul), .alu (.binary .div),
    .alu (.binary .mod), .alu (.binary .cmp), .alu (.binary .and), .alu (.binary .or),
    .alu (.binary .xor), .alu (.binary .shl), .alu (.binary .shr)]

theorem mem_all (op : Operation) : op ∈ all := by
  rcases op with (op | op) | op
  · cases op <;> decide
  · cases op <;> decide
  · rcases op with _ | _ | _ | _ | _ | _ | _ | _ | _ | _ | _ | _ | _ | c
    case jump => cases c <;> decide
    all_goals decide

def mnemonic : Operation → String
  | .alu op => op.mnemonic
  | .control op => op.mnemonic

def opcode : Operation → Byte
  | .control .nop => 0x00
  | .control .hlt => 0x01
  | .control .ret => 0x11
  | .control .iret => 0x13
  | .control .push => 0x45
  | .control .pop => 0x46
  | .control .prn => 0x47
  | .control .pra => 0x48
  | .control .call => 0x50
  | .control .int => 0x52
  | .control (.jump .always) => 0x54
  | .control (.jump .equal) => 0x55
  | .control (.jump .notEqual) => 0x56
  | .control (.jump .greater) => 0x57
  | .control (.jump .less) => 0x58
  | .control (.jump .lessOrEqual) => 0x59
  | .control (.jump .greaterOrEqual) => 0x5A
  | .alu (.unary .inc) => 0x65
  | .alu (.unary .dec) => 0x66
  | .alu (.unary .not) => 0x69
  | .control .ldi => 0x82
  | .control .ld => 0x83
  | .control .st => 0x84
  | .alu (.binary .add) => 0xA0
  | .alu (.binary .sub) => 0xA1
  | .alu (.binary .mul) => 0xA2
  | .alu (.binary .div) => 0xA3
  | .alu (.binary .mod) => 0xA4
  | .alu (.binary .cmp) => 0xA7
  | .alu (.binary .and) => 0xA8
  | .alu (.binary .or) => 0xAA
  | .alu (.binary .xor) => 0xAB
  | .alu (.binary .shl) => 0xAC
  | .alu (.binary .shr) => 0xAD

def decode (opcode : Byte) : Option Operation :=
  all.find? fun op => op.opcode = opcode

theorem decode_opcode (op : Operation) : decode op.opcode = some op := by
  have : ∀ op ∈ all, decode op.opcode = some op := by decide
  exact this op (mem_all op)

theorem decode_eq_some_iff {c : Byte} {op : Operation} : decode c = some op ↔ c = op.opcode := by
  constructor
  · intro h
    have := List.find?_some h
    simpa [eq_comm] using this
  · rintro rfl
    exact decode_opcode op

end Operation

namespace Opcode

def aluBit : Byte := 0x20

def setsPcBit : Byte := 0x10

/-- Whether the opcode is marked as an arithmetic operation. -/
def isAlu (opcode : Byte) : Bool := opcode &&& aluBit ≠ 0

/-- Whether the operation moves the program counter itself. -/
def setsPc (opcode : Byte) : Bool := opcode &&& setsPcBit ≠ 0

/-- The number of operand bytes after the opcode. -/
def operandCount (opcode : Byte) : Nat := (opcode >>> 6).toNat

end Opcode

end ByteMachine
