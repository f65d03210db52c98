import ByteMachine.Machine.Basic

/-! The stack. It grows downwards from the stack pointer, which never passes 0 or 255: a push at 0
and a pop at 255 fail and change nothing. -/

namespace ByteMachine.Machine

def push (v : Byte) (m : Machine) : Except Fault Machine :=
  let sp := m.reg Reg.sp
  if sp = 0 then .error .stackOverflow
  else .ok ((m.setReg Reg.sp (sp - 1)).store (sp - 1) v)

/-- The byte at the stack pointer, and the machine without it on its stack. -/
def pop (m : Machine) : Except Fault (Byte × Machine) :=
  let sp := m.reg Reg.sp
  if sp = 255 then .error .stackUnderflow
  else .ok (m.memory.load sp, m.setReg Reg.sp (sp + 1))

/-- Pushes one byte after another. Those that fit stay pushed. -/
def pushAll (m : Machine) : List Byte → Machine × Option Fault
  | [] => (m, none)
  | v :: vs =>
    match m.push v with
    | .ok m => m.pushAll vs
    | .error fault => (m, some fault)

theorem push_of_ne_zero {m : Machine} (v : Byte) (h : m.reg Reg.sp ≠ 0) :
    m.push v = .ok ((m.setReg Reg.sp (m.reg Reg.sp - 1)).store (m.reg Reg.sp - 1) v) :=
  if_neg h

theorem pop_of_ne_last {m : Machine} (h : m.reg Reg.sp ≠ 255) :
    m.pop = .ok (m.memory.load (m.reg Reg.sp), m.setReg Reg.sp (m.reg Reg.sp + 1)) :=
  if_neg h

/-- A pop right after a push yields the pushed byte and the stack pointer from before. -/
theorem pop_of_push {v : Byte} {m m' : Machine} (h : m.push v = .ok m') :
    ∃ m'', m'.pop = .ok (v, m'') ∧ m''.reg Reg.sp = m.reg Reg.sp := by
  by_cases hsp : m.reg Reg.sp = 0
  · rw [push, if_pos hsp] at h
    cases h
  · rw [push_of_ne_zero v hsp] at h
    cases h
    have hne : m.reg Reg.sp - 1 ≠ 255 := fun e => hsp (by
      rw [← BitVec.sub_add_cancel (m.reg Reg.sp) 1, e]
      rfl)
    have htop : ((m.setReg Reg.sp (m.reg Reg.sp - 1)).store (m.reg Reg.sp - 1) v).reg Reg.sp =
        m.reg Reg.sp - 1 := by simp
    refine ⟨((m.setReg Reg.sp (m.reg Reg.sp - 1)).store (m.reg Reg.sp - 1) v).setReg Reg.sp
      (m.reg Reg.sp), ?_, by simp⟩
    rw [pop_of_ne_last (by rwa [htop]), htop, BitVec.sub_add_cancel]
    simp

end ByteMachine.Machine
