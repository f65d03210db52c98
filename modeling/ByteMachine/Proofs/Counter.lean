import ByteMachine.Machine.Load
import ByteMachine.Proofs.FirstFault

/-! The program counter. It never gets further than two past the last address, so that the sums made
of it stay small, and a step that meets a fault does not move it. -/

namespace ByteMachine

theorem Instruction.length_le (i : Instruction) : i.length ≤ 3 := by
  rw [i.length_eq]
  cases i <;> simp

/-- All bytes of an instruction are read to fetch it, but for a jump that is not taken. -/
theorem Instruction.fetched_eq_length {i : Instruction} (h : ∀ c, i ≠ .skip c) :
    i.fetched = i.length := by
  rw [i.length_eq]
  cases i with
  | skip c => exact absurd rfl (h c)
  | _ => rfl

/-- An instruction sets the counter to a byte or moves it past itself. -/
theorem Effect.pc_lt_or_eq {m m' : Machine} {i : Instruction} (h : Effect m i m') :
    m'.pc < Memory.size ∨ m'.pc = m.pc + i.length := by
  rw [i.length_eq]
  cases h with
  | call | ret | jump => exact .inl (BitVec.isLt _)
  | iret hpop =>
    obtain ⟨m₁, hp, hafter⟩ := exists_popped (.iret hpop)
    rw [hafter, Machine.pc_unmask]
    exact .inl (hp.pc_lt (by decide))
  | _ => exact .inr rfl

theorem Refusal.pc {m m' : Machine} {i : Instruction} {f : Fault} (h : Refusal m i f m') :
    m'.pc = m.pc := by
  cases h with
  | iret hpop => exact Machine.pc_popAll_of_fault hpop (by decide)
  | _ => rfl

namespace Attempt

variable {a : Attempt}

theorem pc_of_effect {i : Instruction} (he : a.Executes i) (heffect : Effect a.polled i a.after) :
    a.after.pc ≤ 256 ∨ a.after.pc = 257 ∧ a.before.pc = 255 ∧ ∃ c, i = .skip c := by
  have hin : a.before.pc + i.fetched ≤ 256 := by
    have hpolled := (Machine.encodes_of_fetch he.2).inside
    rwa [pc_polled] at hpolled
  rcases heffect.pc_lt_or_eq with hpc | hpc
  · exact .inl (Nat.le_of_lt hpc)
  · rw [pc_polled] at hpc
    -- A jump that is not taken is the only instruction longer than what is read of it.
    by_cases hskip : ∃ c, i = .skip c
    · obtain ⟨c, rfl⟩ := hskip
      have hpc' : a.after.pc = a.before.pc + 2 := by rwa [Instruction.length_eq] at hpc
      have hin' : a.before.pc + 1 ≤ 256 := hin
      rcases Nat.lt_or_ge a.before.pc 255 with hlt | hge
      · exact .inl (by omega)
      · exact .inr ⟨by omega, by omega, c, rfl⟩
    · rw [Instruction.fetched_eq_length fun c hc => hskip ⟨c, hc⟩] at hin
      exact .inl (by omega)

theorem pc_of_success (hf : a.fault = none) :
    a.after.pc ≤ 256 ∨
      a.after.pc = 257 ∧ a.before.pc = 255 ∧ ∃ c, a.Executes (.skip c) := by
  cases a.course with
  | dispatch n hn =>
    rw [(hn.dispatched hf).pc]
    exact .inl (Nat.le_of_lt (BitVec.isLt _))
  | unread f _ _ hsome _ => cases hf.symm.trans hsome
  | executed i he _ heffect =>
    rcases pc_of_effect he heffect with h | ⟨hend, hlast, c, rfl⟩
    · exact .inl h
    · exact .inr ⟨hend, hlast, c, he⟩
  | refused i f m _ hsome _ _ => cases hf.symm.trans hsome

theorem pc_of_fault {f : Fault} (hf : a.fault = some f) : a.after.pc = a.before.pc := by
  cases a.course with
  | dispatch n hn => exact (hn.kept hf).1
  | unread g _ _ _ hafter => rw [hafter, Machine.pc_halt, pc_polled]
  | executed i _ hnone _ => cases hf.symm.trans hnone
  | refused i g m _ _ hrefused hafter => rw [hafter, Machine.pc_halt, hrefused.pc, pc_polled]

end Attempt

namespace Machine

theorem pc_stepAll_le {m : Machine} (h : m.pc ≤ 257) (ticks : List Bool) :
    (m.stepAll ticks).pc ≤ 257 := by
  induction ticks generalizing m with
  | nil => exact h
  | cons tick ticks ih =>
    apply ih
    cases hf : (⟨m, tick⟩ : Attempt).fault with
    | none =>
      rcases Attempt.pc_of_success hf with hle | ⟨hend, -⟩
      · exact Nat.le_succ_of_le hle
      · exact Nat.le_of_eq hend
    | some f =>
      have hpc : (m.step tick).machine.pc = m.pc := Attempt.pc_of_fault hf
      rwa [hpc]

@[simp] theorem code_poll (m : Machine) (tick : Bool) (k : Nat) :
    (m.poll tick).code k = m.code k := by
  simp [code]

/-- Nothing in the next step of the machine is out of range: not the counter, not the address of a
fault, not a register that an operand names, and no sum of the counter and an offset, as it is made
to show and to read the code and to go on to the next instruction. -/
structure InRange (tick : Bool) (m : Machine) : Prop where
  pc : m.pc ≤ 257
  addr : ∀ addr, (m.step tick).fault = some (.outOfBounds addr) → addr = 256 ∨ addr = 257
  register : ∀ i, (m.poll tick).fetch = .ok i → ∀ (k : Nat) (h : k < i.named.length),
    (m.code (k + 1)).toNat = i.named[k] ∧ (m.code (k + 1)).toNat < Reg.count
  offset : ∀ k ≤ 2, m.pc + k < UInt64.size
  next : ∀ i, (m.poll tick).fetch = .ok i → m.pc + i.length < UInt64.size

theorem inRange_of_pc_le {m : Machine} (h : m.pc ≤ 257) (tick : Bool) : m.InRange tick where
  pc := h
  addr addr hf := by
    have haddr : addr = max m.pc 256 := addr_of_outOfBounds hf
    omega
  register i hi k hk := by
    have hcode := (encodes_of_fetch hi).named k i.named[k] (List.getElem?_eq_getElem hk)
    rw [code_poll] at hcode
    exact ⟨hcode, hcode ▸ i.named[k].isLt⟩
  offset k hk := by
    have hsize : UInt64.size = 18446744073709551616 := rfl
    omega
  next i _ := by
    have hsize : UInt64.size = 18446744073709551616 := rfl
    have hlen := i.length_le
    omega

/-- A step that goes through ends with the counter at most 257, and at 257 only after a jump at 255
that is not taken; a step that meets a fault leaves the counter where it was. So nothing is ever out
of range in a run from the start, whatever the program. -/
theorem inRange_stepAll :
    (∀ a : Attempt,
      (a.fault = none → a.after.pc ≤ 257 ∧
        (a.after.pc = 257 → a.before.pc = 255 ∧ ∃ c, a.Executes (.skip c))) ∧
      ∀ f, a.fault = some f → a.after.pc = a.before.pc) ∧
    ∀ (sink : Sink) (program : List Byte) (ticks : List Bool) (tick : Bool),
      (((fresh sink).load program).machine.stepAll ticks).InRange tick := by
  refine ⟨?_, ?_⟩
  · intro a
    refine ⟨?_, fun f hf => Attempt.pc_of_fault hf⟩
    intro hf
    rcases Attempt.pc_of_success hf with hle | ⟨hend, hlast, hskip⟩
    · exact ⟨Nat.le_succ_of_le hle, fun h => absurd (h ▸ hle) (by decide)⟩
    · exact ⟨Nat.le_of_eq hend, fun _ => ⟨hlast, hskip⟩⟩
  · intro sink program ticks tick
    have hstart : ((fresh sink).load program).machine.pc = 0 := rfl
    exact inRange_of_pc_le (pc_stepAll_le (by omega) ticks) tick

end Machine

/-- Writes a jump that is not taken to the last address, and goes there. -/
def overrun : List Byte := [0x82, 0, 255, 0x82, 1, 0x55, 0x84, 0, 1, 0x54, 0]

theorem inRange_stepAll_overrun :
    let m := ((Machine.fresh .unbounded).load overrun).machine
    let there := List.replicate 4 false
    (m.stepAll there).pc = 255 ∧ (m.stepAll (there ++ [false])).pc = 257 ∧
      (∀ ticks tick, (m.stepAll ticks).InRange tick) ∧
      ((m.stepAll (there ++ [false])).step true).fault = some (.outOfBounds 257) ∧
      (m.stepAll (there ++ [false, true])).pc = 257 := by
  intro m there
  obtain ⟨hstep, hrun⟩ := Machine.inRange_stepAll
  let jump : Attempt := ⟨m.stepAll there, false⟩
  let out : Attempt := ⟨m.stepAll (there ++ [false]), true⟩
  have hend : jump.after.pc = 257 := by decide +kernel
  have hf : out.fault = some (.outOfBounds 257) := by decide +kernel
  refine ⟨(((hstep jump).1 (by decide +kernel)).2 hend).1, hend, hrun _ _, hf, ?_⟩
  exact ((hstep out).2 _ hf).trans hend

end ByteMachine
