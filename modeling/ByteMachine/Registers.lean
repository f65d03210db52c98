import ByteMachine.Fault
import ByteMachine.Flag

/-! The register file: eight byte registers, the program counter and the flags. -/

namespace ByteMachine

/-- The registers R0 to R7. -/
abbrev Reg := Fin 8

namespace Reg

def count : Nat := 8

/-- The interrupt mask, R5. -/
def im : Reg := 5

/-- The interrupt status, R6: bit `n` is set while interrupt `n` is requested. -/
def is : Reg := 6

/-- The stack pointer, R7. -/
def sp : Reg := 7

/-- The registers that only the program uses. -/
def general : List Reg := [0, 1, 2, 3, 4]

/-- The registers below the stack pointer. -/
def belowStack : List Reg := [0, 1, 2, 3, 4, im, is]

def ofOperand (operand : Byte) : Except Fault Reg :=
  if h : operand.toNat < 8 then .ok ⟨operand.toNat, h⟩ else .error (.invalidRegister operand)

def ofNat? (i : Nat) : Option Reg := if h : i < 8 then some ⟨i, h⟩ else none

end Reg

structure Registers where
  values : Vector Byte 8
  /-- The program counter. It may point past the end of memory. -/
  pc : Nat
  flags : Byte
  deriving DecidableEq

namespace Registers

def stackStart : Byte := 0xF4

def get (regs : Registers) (r : Reg) : Byte := regs.values[r]

def set (regs : Registers) (r : Reg) (v : Byte) : Registers :=
  { regs with values := regs.values.set r v }

/-- The registers at the start: all zero but the stack pointer. -/
def initial : Registers :=
  ⟨(Vector.replicate 8 0).set Reg.sp stackStart, 0, 0⟩

def isInitial (regs : Registers) : Bool := regs = initial

def has (regs : Registers) (flag : Flag) : Bool := flag.isSet regs.flags

@[simp] theorem get_set_self (regs : Registers) (r : Reg) (v : Byte) :
    (regs.set r v).get r = v := by
  simp [get, set]

theorem get_set_of_ne (regs : Registers) {r s : Reg} (v : Byte) (h : s ≠ r) :
    (regs.set r v).get s = regs.get s := by
  have : r.val ≠ s.val := fun e => h (Fin.ext e.symm)
  simp [get, set, this]

theorem get_set (regs : Registers) (r s : Reg) (v : Byte) :
    (regs.set r v).get s = if s = r then v else regs.get s := by
  split
  · next h => rw [h, get_set_self]
  · next h => exact get_set_of_ne regs v h

@[simp] theorem pc_set (regs : Registers) (r : Reg) (v : Byte) : (regs.set r v).pc = regs.pc :=
  rfl

@[simp] theorem flags_set (regs : Registers) (r : Reg) (v : Byte) :
    (regs.set r v).flags = regs.flags :=
  rfl

end Registers

end ByteMachine
