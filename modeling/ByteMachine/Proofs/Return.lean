import ByteMachine.Proofs.Messages
import ByteMachine.Proofs.Running
import ByteMachine.Proofs.Standstill
import Mathlib.Data.List.Basic

/-! All that a return from an interrupt does, whether or not the stack holds a whole frame. A return
that runs out of stack has filled the slots it came to, and leaves the others and the mask that was
put aside. -/

namespace ByteMachine

/-- The slots in the order in which a return fills them. -/
def Slot.returned : List Slot :=
  .reg Reg.is :: .reg Reg.im :: (Reg.general.reverse.map .reg ++ [.flags, .pc])

theorem Slot.reverse_frame : Slot.frame.reverse = Slot.returned := rfl

theorem Machine.get_unmask_of_ne (m : Machine) {slot : Slot} (h : slot ≠ .reg Reg.im) :
    slot.get m.unmask.regs = slot.get m.regs := by
  cases slot with
  | pc => exact congrArg (BitVec.ofNat 8) m.pc_unmask
  | flags => exact m.flags_unmask
  | reg r => exact m.reg_unmask_of_ne fun e => h (congrArg Slot.reg e)

theorem Machine.reg_im_unmask (m : Machine) :
    m.unmask.reg Reg.im = m.savedMask.getD (m.reg Reg.im) := by
  cases hm : m.savedMask with
  | none => simp [unmask, hm]
  | some mask => exact (unmask_of_some hm).1

namespace Attempt

variable {a : Attempt}

/-- The byte `i` above the stack pointer. -/
def popped (a : Attempt) (i : Nat) : Byte :=
  a.before.memory.load (a.before.reg Reg.sp + BitVec.ofNat 8 i)

/-- The return went through. Each slot took its byte, and the mask that was put aside, if any, is
the mask again in place of the byte for it. -/
structure Refilled (a : Attempt) : Prop where
  fault : a.fault = none
  filled : ∀ (i : Nat) (slot : Slot), Slot.returned[i]? = some slot → slot ≠ .reg Reg.im →
    slot.get a.after.regs = a.popped i
  pc : a.after.pc = (a.popped 8).toNat
  im : a.after.reg Reg.im = a.before.savedMask.getD (a.popped 1)
  sp : (a.after.reg Reg.sp).toNat = (a.before.reg Reg.sp).toNat + 9
  savedMask : a.after.savedMask = none
  running : a.after.running = a.before.running

/-- The return ran out of stack. The slots for which there were bytes below the end took theirs, and
the others are as before, but for a tick in the status register. -/
structure RanDry (a : Attempt) : Prop where
  fault : a.fault = some .stackUnderflow
  filled : ∀ (i : Nat) (slot : Slot), i < 255 - (a.before.reg Reg.sp).toNat →
    Slot.returned[i]? = some slot → slot.get a.after.regs = a.popped i
  kept : ∀ (i : Nat) (slot : Slot), 255 - (a.before.reg Reg.sp).toNat ≤ i →
    Slot.returned[i]? = some slot → slot ≠ .reg Reg.is →
    slot.get a.after.regs = slot.get a.before.regs
  pc : a.after.pc = a.before.pc
  sp : a.after.reg Reg.sp = 255
  savedMask : a.after.savedMask = a.before.savedMask
  running : a.after.running = false

/-- Either all slots were popped and the mask came back, or the stack was too short for the frame
and the slots were popped for which it had bytes. -/
theorem Executes.popped_or_halted (h : a.Executes .iret) :
    (a.fault = none ∧
        ∃ m, Machine.Popped a.polled Slot.returned m ∧ a.after = m.unmask) ∨
      a.fault = some .stackUnderflow ∧ 246 < (a.before.reg Reg.sp).toNat ∧
        ∃ m, Machine.Popped a.polled
          (Slot.returned.take (255 - (a.before.reg Reg.sp).toNat)) m ∧ a.after = m.halt := by
  rw [← Slot.reverse_frame]
  rcases h.effect_or_refusal with ⟨hf, heffect⟩ | ⟨f, m, hf, hrefused, hafter⟩
  · exact .inl ⟨hf, heffect.exists_popped⟩
  · have hfree : .reg Reg.sp ∉ Slot.frame.reverse := by decide
    have hnodup : Slot.frame.reverse.Nodup := by decide
    have hpopped := a.polled.popped_popAll hnodup hfree
    have hfault := a.polled.fault_popAll hfree
    cases hrefused with
    | iret hpop =>
      rw [hpop, reg_sp_polled] at hpopped hfault
      by_cases hroom : 255 < (a.before.reg Reg.sp).toNat + Slot.frame.reverse.length
      · rw [if_pos hroom] at hfault
        rw [show Slot.frame.reverse.length = 9 from rfl] at hroom
        exact .inr ⟨hf.trans hfault, by omega, m, hpopped, hafter⟩
      · rw [if_neg hroom] at hfault
        cases hfault

theorem get_polled_of_ne (a : Attempt) {slot : Slot} (h : slot ≠ .reg Reg.is) :
    slot.get a.polled.regs = slot.get a.before.regs := by
  cases slot with
  | pc => exact congrArg (BitVec.ofNat 8) a.pc_polled
  | flags => exact a.flags_polled
  | reg r => exact a.reg_polled_of_ne fun e => h (congrArg Slot.reg e)

theorem get_of_popped {m : Machine} {slots : List Slot} (hp : Machine.Popped a.polled slots m)
    {i : Nat} {slot : Slot} (hi : slots[i]? = some slot) : slot.get m.regs = a.popped i := by
  rw [hp.get_of_getElem? hi, memory_polled, reg_sp_polled]
  rfl

theorem Executes.refilled (h : a.Executes .iret) (hf : a.fault = none) {m : Machine}
    (hp : Machine.Popped a.polled Slot.returned m) (hafter : a.after = m.unmask) : a.Refilled := by
  refine ⟨hf, ?_, ?_, ?_, ?_, ?_, ?_⟩
  · intro i slot hi hne
    rw [hafter, m.get_unmask_of_ne hne, get_of_popped hp hi]
  · have hlast : Slot.returned[8]? = some .pc := rfl
    rw [hafter, Machine.pc_unmask, hp.pc_of_getElem? hlast, memory_polled, reg_sp_polled]
    rfl
  · have hsecond : Slot.returned[1]? = some (.reg Reg.im) := rfl
    have hbyte : m.reg Reg.im = a.popped 1 := get_of_popped hp hsecond
    rw [hafter, m.reg_im_unmask, hp.savedMask, savedMask_polled, hbyte]
  · rw [hafter, m.reg_unmask_of_ne (by decide), hp.sp, reg_sp_polled]
    rfl
  · rw [hafter, m.savedMask_unmask]
  · refine running_of_goesOn ⟨hf, fun hhlt => ?_⟩
    cases h.iff_eq.1 hhlt

theorem notMem_take_returned {k i : Nat} {slot : Slot} (hk : k ≤ i)
    (hi : Slot.returned[i]? = some slot) : slot ∉ Slot.returned.take k := by
  have hdisjoint := List.disjoint_take_drop (l := Slot.returned) (by decide) (Nat.le_refl k)
  intro htake
  refine hdisjoint htake (List.mem_of_getElem? (i := i - k) ?_)
  rw [List.getElem?_drop, Nat.add_sub_cancel' hk, hi]

theorem ranDry (hf : a.fault = some .stackUnderflow) (hsp : 246 < (a.before.reg Reg.sp).toNat)
    {m : Machine}
    (hp : Machine.Popped a.polled (Slot.returned.take (255 - (a.before.reg Reg.sp).toNat)) m)
    (hafter : a.after = m.halt) : a.RanDry := by
  refine ⟨hf, ?_, ?_, ?_, ?_, ?_, running_of_fault hf⟩
  · intro i slot hlt hi
    rw [hafter]
    exact get_of_popped hp ((List.getElem?_take_of_lt hlt).trans hi)
  · intro i slot hle hi hne
    have hfree : .reg Reg.sp ∉ Slot.returned := by decide
    have hslot : slot ≠ .reg Reg.sp := by
      rintro rfl
      exact hfree (List.mem_of_getElem? hi)
    rw [hafter, ← a.get_polled_of_ne hne]
    exact hp.other slot (notMem_take_returned hle hi) hslot
  · rw [hafter, ← a.pc_polled]
    exact hp.pc (notMem_take_returned (i := 8) (by omega) rfl)
  · have hup := hp.sp
    have hlast := (a.before.reg Reg.sp).isLt
    rw [List.length_take, reg_sp_polled, show Slot.returned.length = 9 from rfl] at hup
    rw [hafter, Machine.reg_halt]
    bv_omega
  · rw [hafter, Machine.savedMask_halt, hp.savedMask, savedMask_polled]

/-- A return goes through exactly if there are nine bytes below the end of the stack. It never
touches memory, and of a tick in its cycle nothing stays unless it pops nothing. -/
theorem Executes.refilled_or_ranDry (h : a.Executes .iret) :
    ((a.before.reg Reg.sp).toNat ≤ 246 → a.Refilled) ∧
      (247 ≤ (a.before.reg Reg.sp).toNat → a.RanDry) ∧
      a.after.memory = a.before.memory ∧ a.after.sink = a.before.sink ∧
      a.after.reg Reg.is =
        if a.before.reg Reg.sp = 255 then
          if a.tick then a.before.reg Reg.is ||| Byte.bit Machine.timerInterrupt
          else a.before.reg Reg.is
        else a.popped 0 := by
  rcases h.popped_or_halted with ⟨hf, m, hp, hafter⟩ | ⟨hf, hsp, m, hp, hafter⟩
  · have hup : (m.reg Reg.sp).toNat = (a.before.reg Reg.sp).toNat + 9 :=
      reg_sp_polled a ▸ hp.sp
    have hroom : (a.before.reg Reg.sp).toNat ≤ 246 := by
      have hlast := (m.reg Reg.sp).isLt
      omega
    have hfull := h.refilled hf hp hafter
    refine ⟨fun _ => hfull, fun hlt => ?_, ?_, ?_, ?_⟩
    · exact absurd hroom (Nat.not_le.2 hlt)
    · rw [hafter, Machine.memory_unmask, hp.memory, memory_polled]
    · rw [hafter, Machine.sink_unmask, hp.sink, sink_polled]
    · rw [if_neg fun hlast => by simp [hlast] at hroom]
      exact hfull.filled 0 (.reg Reg.is) rfl (by decide)
  · have hshort := ranDry hf hsp hp hafter
    refine ⟨fun hle => absurd hsp (Nat.not_lt.2 hle), fun _ => hshort, ?_, ?_, ?_⟩
    · rw [hafter, Machine.memory_halt, hp.memory, memory_polled]
    · rw [hafter, Machine.sink_halt, hp.sink, sink_polled]
    · by_cases hlast : a.before.reg Reg.sp = 255
      · -- Nothing is popped, so the status register is as the poll left it.
        have hkept := hp.other (.reg Reg.is) (by simp [hlast]) (by decide)
        rw [if_pos hlast, ← Machine.reg_is_poll, hafter, Machine.reg_halt]
        exact hkept
      · rw [if_neg hlast]
        exact hshort.filled 0 (.reg Reg.is) (by bv_omega) rfl

end Attempt

/-- Returns from an interrupt with the stack pointer at `sp`, while the timer ticks. The mask 3 was
put aside, and the bytes from 246 to 254 count up from 11. -/
def returning (sp : Byte) : Attempt where
  before :=
    { (((Machine.fresh .unbounded).setReg Reg.sp sp).setFlags 4).patch
        [(0, 0x13), (246, 11), (247, 12), (248, 13), (249, 14), (250, 15), (251, 16), (252, 17),
          (253, 18), (254, 19)] with
      savedMask := some 3 }
  tick := true

theorem refilled_or_ranDry_returning :
    ((returning 246).Executes .iret ∧ (returning 247).Executes .iret ∧
        (returning 255).Executes .iret) ∧
      ((returning 246).Refilled ∧ (returning 246).after.pc = 19 ∧
        (returning 246).after.reg Reg.im = 3) ∧
      ((returning 247).RanDry ∧ (returning 247).after.regs.flags = 19 ∧
        (returning 247).after.reg Reg.im = 13) ∧
      (returning 255).RanDry ∧ (returning 255).after.reg Reg.is = 1 := by
  have hroom : (returning 246).Executes .iret := by decide +kernel
  have hshort : (returning 247).Executes .iret := by decide +kernel
  have hempty : (returning 255).Executes .iret := by decide +kernel
  have hfull := hroom.refilled_or_ranDry.1 (by decide +kernel)
  have hdry := hshort.refilled_or_ranDry.2.1 (by decide +kernel)
  obtain ⟨-, hnone, -, -, his⟩ := hempty.refilled_or_ranDry
  refine ⟨⟨hroom, hshort, hempty⟩, ⟨hfull, ?_, ?_⟩, ⟨hdry, ?_, ?_⟩, hnone (by decide +kernel), ?_⟩
  · rw [hfull.pc]
    decide +kernel
  · rw [hfull.im]
    decide +kernel
  · exact (hdry.filled 7 .flags (by decide +kernel) rfl).trans (by decide +kernel)
  · exact (hdry.filled 1 (.reg Reg.im) (by decide +kernel) rfl).trans (by decide +kernel)
  · rw [his]
    decide +kernel

end ByteMachine
