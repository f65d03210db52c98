import ByteMachine.Fault
import ByteMachine.Flag

/-! The arithmetic and logic unit. Results wrap to eight bits; a comparison yields flags in place
of a value. -/

namespace ByteMachine

inductive UnaryOp where
  | inc
  | dec
  | not
  deriving DecidableEq, Repr

inductive BinaryOp where
  | add
  | sub
  | mul
  | div
  | mod
  | cmp
  | and
  | or
  | xor
  | shl
  | shr
  deriving DecidableEq, Repr

inductive AluResult where
  | value (v : Byte)
  | flags (f : Byte)
  deriving DecidableEq, Repr

def UnaryOp.apply (a : Byte) : UnaryOp → Byte
  | .inc => a + 1
  | .dec => a - 1
  | .not => ~~~a

/-- Division is unsigned, and a shift by eight or more leaves nothing. -/
def BinaryOp.apply (a b : Byte) : BinaryOp → Except Fault AluResult
  | .add => .ok (.value (a + b))
  | .sub => .ok (.value (a - b))
  | .mul => .ok (.value (a * b))
  | .div => if b = 0 then .error .divisionByZero else .ok (.value (a / b))
  | .mod => if b = 0 then .error .divisionByZero else .ok (.value (a % b))
  | .cmp => .ok (.flags (Flag.compare a b).bit)
  | .and => .ok (.value (a &&& b))
  | .or => .ok (.value (a ||| b))
  | .xor => .ok (.value (a ^^^ b))
  | .shl => .ok (.value (a <<< b.toNat))
  | .shr => .ok (.value (a >>> b.toNat))

inductive AluOp where
  | unary (op : UnaryOp)
  | binary (op : BinaryOp)
  deriving DecidableEq, Repr

namespace AluOp

def all : List AluOp :=
  [.binary .add, .binary .sub, .binary .mul, .binary .div, .binary .mod, .unary .inc, .unary .dec,
    .binary .cmp, .binary .and, .unary .not, .binary .or, .binary .xor, .binary .shl, .binary .shr]

theorem mem_all (op : AluOp) : op ∈ all := by
  rcases op with op | op <;> cases op <;> decide

def mnemonic : AluOp → String
  | .unary .inc => "inc"
  | .unary .dec => "dec"
  | .unary .not => "not"
  | .binary .add => "add"
  | .binary .sub => "sub"
  | .binary .mul => "mul"
  | .binary .div => "div"
  | .binary .mod => "mod"
  | .binary .cmp => "cmp"
  | .binary .and => "and"
  | .binary .or => "or"
  | .binary .xor => "xor"
  | .binary .shl => "shl"
  | .binary .shr => "shr"

def ofMnemonic? (name : String) : Option AluOp := all.find? fun op => op.mnemonic = name

/-- Applies the operation to `a` and, if it takes two operands, to `b`, which must then be
given. -/
def apply (a : Byte) (b : Option Byte) : AluOp → Except Fault AluResult
  | .unary op => .ok (.value (op.apply a))
  | .binary op =>
    match b with
    | some b => op.apply a b
    | none => .error .missingOperand

end AluOp

end ByteMachine
