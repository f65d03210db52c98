import ByteMachine.Proofs.Episode
import ByteMachine.Proofs.Fetch
import ByteMachine.Proofs.Sink

/-! Machines that look alike to a program which keeps out of the interrupt registers and of a scratch
area below the stack pointer. Whatever such a program does on one of them it does on the other, and
they still look alike. -/

namespace ByteMachine

namespace Machine

/-- The address lies in the scratch area, which reaches from `z` up to the stack pointer. -/
def Scratch (z : Nat) (m : Machine) (a : Nat) : Prop := z ≤ a ∧ a < (m.reg Reg.sp).toNat

instance (z : Nat) (m : Machine) (a : Nat) : Decidable (m.Scratch z a) :=
  inferInstanceAs (Decidable (_ ∧ _))

/-- The machines agree on everything but the interrupt registers and the scratch area. -/
structure Alike (z : Nat) (m₁ m₂ : Machine) : Prop where
  pc : m₂.pc = m₁.pc
  flags : m₂.regs.flags = m₁.regs.flags
  reg : ∀ r, r ≠ Reg.im → r ≠ Reg.is → m₂.reg r = m₁.reg r
  load : ∀ a : Byte, ¬m₁.Scratch z a.toNat → m₂.memory.load a = m₁.memory.load a

namespace Alike

variable {z : Nat} {m₁ m₂ : Machine}

theorem reg_sp (h : Alike z m₁ m₂) : m₂.reg Reg.sp = m₁.reg Reg.sp :=
  h.reg Reg.sp (by decide) (by decide)

theorem load_sp (h : Alike z m₁ m₂) :
    m₂.memory.load (m₁.reg Reg.sp) = m₁.memory.load (m₁.reg Reg.sp) :=
  h.load _ fun hin => Nat.lt_irrefl _ hin.2

theorem setReg (h : Alike z m₁ m₂) {r : Reg} (hr : r ≠ Reg.sp) (v : Byte) :
    Alike z (m₁.setReg r v) (m₂.setReg r v) where
  pc := h.pc
  flags := h.flags
  reg q him his := by
    rw [reg_setReg, reg_setReg, h.reg q him his]
  load a ha := by
    apply h.load a
    rwa [Scratch, reg_setReg_of_ne _ _ hr.symm] at ha

theorem goto (h : Alike z m₁ m₂) (pc : Nat) : Alike z (m₁.goto pc) (m₂.goto pc) :=
  ⟨rfl, h.flags, h.reg, h.load⟩

theorem setFlags (h : Alike z m₁ m₂) (f : Byte) : Alike z (m₁.setFlags f) (m₂.setFlags f) :=
  ⟨h.pc, rfl, h.reg, h.load⟩

theorem halt (h : Alike z m₁ m₂) : Alike z m₁.halt m₂.halt := ⟨h.pc, h.flags, h.reg, h.load⟩

theorem withSink (h : Alike z m₁ m₂) (s₁ s₂ : Sink) :
    Alike z { m₁ with sink := s₁ } { m₂ with sink := s₂ } :=
  ⟨h.pc, h.flags, h.reg, h.load⟩

theorem store (h : Alike z m₁ m₂) (a v : Byte) : Alike z (m₁.store a v) (m₂.store a v) where
  pc := h.pc
  flags := h.flags
  reg := h.reg
  load b hb := by
    rw [memory_store, memory_store, Memory.load_store, Memory.load_store, h.load b hb]

theorem request (h : Alike z m₁ m₂) (n k : Fin 8) : Alike z (m₁.request n) (m₂.request k) where
  pc := h.pc
  flags := h.flags
  reg r him his := by
    rw [Machine.request, Machine.request, reg_setReg_of_ne _ _ his, reg_setReg_of_ne _ _ his,
      h.reg r him his]
  load a ha := by
    apply h.load a
    rwa [Scratch, Machine.request, reg_setReg_of_ne _ _ (by decide)] at ha

theorem poll (h : Alike z m₁ m₂) (t₁ t₂ : Bool) : Alike z (m₁.poll t₁) (m₂.poll t₂) where
  pc := by simp [h.pc]
  flags := by simp [h.flags]
  reg r him his := by
    rw [reg_poll_of_ne _ _ his, reg_poll_of_ne _ _ his, h.reg r him his]
  load a ha := by
    rw [Scratch, reg_poll_of_ne _ _ (by decide)] at ha
    rw [memory_poll, memory_poll, h.load a ha]

theorem setMask (m : Machine) (z : Nat) (v : Byte) : Alike z m (m.setReg Reg.im v) where
  pc := rfl
  flags := rfl
  reg _ him _ := reg_setReg_of_ne m v him
  load _ _ := rfl

/-- The byte that a push uncovers is the one that it stores. -/
theorem push (h : Alike z m₁ m₂) (v : Byte) :
    Alike z ((m₁.setReg Reg.sp (m₁.reg Reg.sp - 1)).store (m₁.reg Reg.sp - 1) v)
      ((m₂.setReg Reg.sp (m₁.reg Reg.sp - 1)).store (m₁.reg Reg.sp - 1) v) where
  pc := h.pc
  flags := h.flags
  reg r him his := by
    rw [reg_store, reg_store, reg_setReg, reg_setReg, h.reg r him his]
  load a ha := by
    simp only [memory_store, memory_setReg, Memory.load_store]
    split
    · rfl
    · next hne =>
      apply h.load a
      simp only [Scratch, reg_store, reg_setReg_self] at ha ⊢
      bv_omega

/-- A pop makes the scratch area larger. -/
theorem pop (h : Alike z m₁ m₂) (hsp : m₁.reg Reg.sp ≠ 255) :
    Alike z (m₁.setReg Reg.sp (m₁.reg Reg.sp + 1)) (m₂.setReg Reg.sp (m₁.reg Reg.sp + 1)) where
  pc := h.pc
  flags := h.flags
  reg r him his := by
    rw [reg_setReg, reg_setReg, h.reg r him his]
  load a ha := by
    have htop := toNat_add_one hsp
    apply h.load a
    simp only [Scratch, reg_setReg_self] at ha ⊢
    omega

theorem read (h : Alike z m₁ m₂) {a : Nat} (ha : ¬m₁.Scratch z a) :
    m₂.memory.read a = m₁.memory.read a := by
  by_cases hlt : a < Memory.size
  · have hnat : (BitVec.ofNat 8 a).toNat = a := Nat.mod_eq_of_lt hlt
    rw [Memory.read_of_lt _ hlt, Memory.read_of_lt _ hlt, h.load _ (by rwa [hnat])]
  · rw [Memory.read_of_le _ (Nat.le_of_not_lt hlt), Memory.read_of_le _ (Nat.le_of_not_lt hlt)]

end Alike

end Machine

end ByteMachine
