import ByteMachine.Memory
import ByteMachine.Registers

/-! What the machine shows of itself before an instruction: the program counter, the three bytes
from there on and all registers, in one line of hexadecimal fields. -/

namespace ByteMachine

structure Trace where
  pc : Nat
  /-- The bytes at the program counter and at the two addresses after it, where there are any. -/
  code : Vector (Option Byte) 3
  values : Vector Byte 8
  deriving DecidableEq

namespace Trace

def of (regs : Registers) (memory : Memory) : Trace where
  pc := regs.pc
  code := #v[memory.get? regs.pc, memory.get? (regs.pc + 1), memory.get? (regs.pc + 2)]
  values := regs.values

/-- A byte as two digits; an address outside memory as two dashes. -/
def codeField : Option Byte → List Char
  | some b => Radix.field b.toNat
  | none => ['-', '-']

def spaced (fields : List (List Char)) : List Char := fields.flatMap (' ' :: ·)

/-- The characters of the line after its label. -/
def fields (t : Trace) : List Char :=
  Radix.field t.pc ++ [' ', '|'] ++ spaced (t.code.toList.map codeField) ++ [' ', '|'] ++
    spaced (t.values.toList.map fun v => Radix.field v.toNat)

def line (t : Trace) : String := "TRACE: " ++ String.ofList t.fields

end Trace

end ByteMachine
