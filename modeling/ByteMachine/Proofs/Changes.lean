import ByteMachine.Proofs.Dispatch
import ByteMachine.Proofs.Nesting
import ByteMachine.Proofs.Printing

/-! What a step may change, part by part of the machine. A step that meets a fault may change no
more than one that goes through. -/

namespace ByteMachine

theorem Reg.ne_of_mem_general {r : Reg} (h : r ∈ Reg.general) :
    r ≠ Reg.im ∧ r ≠ Reg.is ∧ r ≠ Reg.sp := by
  revert r
  decide

namespace Instruction

/-- The register is one that the instruction sets, as its destination or besides. -/
def Sets (i : Instruction) (r : Reg) : Prop :=
  i = .iret ∨ i.dest? = some r ∨ (r = Reg.sp ∧ i.offStack = false) ∨ r = Reg.is ∧ ∃ b, i = .int b

theorem sets_of_ne {i : Instruction} {r : Reg} (hsp : r ≠ Reg.sp) (his : r ≠ Reg.is)
    (h : i.Sets r) : i = .iret ∨ i.dest? = some r := by
  rcases h with hret | hdest | ⟨heq, -⟩ | ⟨heq, -⟩
  · exact .inl hret
  · exact .inr hdest
  · exact absurd heq hsp
  · exact absurd heq his

theorem sets_sp {i : Instruction} (h : i.Sets Reg.sp) :
    i.offStack = false ∨ i.dest? = some Reg.sp := by
  rcases h with rfl | hdest | ⟨-, hstack⟩ | ⟨his, -⟩
  · exact .inl rfl
  · exact .inr hdest
  · exact .inl hstack
  · cases his

end Instruction

namespace Effect

variable {m m' : Machine} {i : Instruction}

theorem reg_of_not_sets (h : Effect m i m') {r : Reg} (hr : ¬i.Sets r) : m'.reg r = m.reg r := by
  simp only [Instruction.Sets, not_or, not_and, not_exists, Bool.not_eq_false] at hr
  exact h.reg_of_ne hr.2.1 hr.1 hr.2.2.1 hr.2.2.2

/-- Only a store changes memory, and what puts a byte below the stack pointer. -/
theorem stores_of_load_ne (h : Effect m i m') {addr : Byte}
    (hne : m'.memory.load addr ≠ m.memory.load addr) :
    (∃ r s, i = .st r s ∧ addr = m.reg r) ∨
      (∃ r, i = .push r ∨ i = .call r) ∧ addr.toNat + 1 = (m.reg Reg.sp).toNat := by
  have hmem : addr ∈ m.stores i :=
    Decidable.byContradiction fun hnot => hne (h.load_of_notMem hnot)
  cases h with
  | st r s => exact .inl ⟨r, s, rfl, List.mem_singleton.1 hmem⟩
  | push r hsp =>
    obtain rfl := List.mem_singleton.1 hmem
    exact .inr ⟨⟨r, .inl rfl⟩, Machine.toNat_sub_one hsp⟩
  | call r _ hsp =>
    obtain rfl := List.mem_singleton.1 hmem
    exact .inr ⟨⟨r, .inr rfl⟩, Machine.toNat_sub_one hsp⟩
  | _ => cases hmem

end Effect

namespace Refusal

variable {m m' : Machine} {i : Instruction} {f : Fault}

theorem memory (h : Refusal m i f m') : m'.memory = m.memory := by
  cases h with
  | iret hpop =>
    have hnodup : Slot.frame.reverse.Nodup := by decide
    have hfree : .reg Reg.sp ∉ Slot.frame.reverse := by decide
    have hpopped := m.popped_popAll hnodup hfree
    rw [hpop] at hpopped
    exact hpopped.memory
  | _ => rfl

theorem regs (h : Refusal m i f m') (hret : i ≠ .iret) : m'.regs = m.regs := by
  obtain ⟨taken, -, rfl⟩ := h.exists_eq_withSink hret
  rfl

end Refusal

namespace Attempt

variable {a : Attempt}

/-- Whatever part of the machine differs after the step, the step is one of those that may change
it. -/
structure Confined (a : Attempt) : Prop where
  memory : ∀ addr : Byte, a.after.memory.load addr ≠ a.before.memory.load addr →
    (a.Starts ∧ (a.before.reg Reg.sp).toNat - 9 ≤ addr.toNat ∧
        addr.toNat < (a.before.reg Reg.sp).toNat) ∨
      (∃ r s, a.Executes (.st r s) ∧ addr = a.polled.reg r) ∨
      (∃ r, a.Executes (.push r) ∨ a.Executes (.call r)) ∧
        addr.toNat + 1 = (a.before.reg Reg.sp).toNat
  flags : a.after.regs.flags ≠ a.before.regs.flags →
    (∃ r s, a.Executes (.binary .cmp r s)) ∨ a.Executes .iret
  savedMask : a.after.savedMask ≠ a.before.savedMask → a.Starts ∨ a.Returns
  sp : a.after.reg Reg.sp ≠ a.before.reg Reg.sp →
    a.Starts ∨ ∃ i, a.Executes i ∧ (i.offStack = false ∨ i.dest? = some Reg.sp)
  is : a.after.reg Reg.is ≠ a.before.reg Reg.is →
    (∃ n, a.Dispatches n ∧ a.after.reg Reg.is = a.before.reg Reg.is &&& ~~~Byte.bit n) ∨
      (a.before.pending? = none ∧ a.tick = true ∧
        a.after.reg Reg.is = a.before.reg Reg.is ||| Byte.bit Machine.timerInterrupt) ∨
      (∃ (r : Reg) (n : Fin 8), a.Executes (.int r) ∧ (a.polled.reg r).toNat = n ∧
        a.after.reg Reg.is = a.polled.reg Reg.is ||| Byte.bit n) ∨
      ∃ i, a.Executes i ∧ (i = .iret ∨ i.dest? = some Reg.is)
  im : a.after.reg Reg.im ≠ a.before.reg Reg.im →
    a.Starts ∨ ∃ i, a.Executes i ∧ (i = .iret ∨ i.dest? = some Reg.im)
  general : ∀ r ∈ Reg.general, a.after.reg r ≠ a.before.reg r →
    ∃ i, a.Executes i ∧ (i = .iret ∨ i.dest? = some r)
  sink : a.after.sink ≠ a.before.sink → a.Prints
  running : a.after.running ≠ a.before.running →
    a.before.running = true ∧ (a.Executes .hlt ∨ a.fault.isSome)

theorem starts_iff : a.Starts ↔ ∃ n, a.Dispatches n := Option.isSome_iff_exists

/-- A register that no instruction sets is after the step as the timer left it. -/
theorem reg_of_not_sets (hp : a.before.pending? = none) {r : Reg}
    (h : ∀ i, a.Executes i → ¬i.Sets r) : a.after.reg r = a.polled.reg r := by
  cases a.course with
  | dispatch n hn => cases hp.symm.trans hn
  | unread f _ _ _ hafter => rw [hafter, Machine.reg_halt]
  | executed i he _ heffect => exact heffect.reg_of_not_sets (h i he)
  | refused i f m he _ hrefused hafter =>
    have hret : i ≠ .iret := fun hret => h i he (.inl hret)
    rw [hafter, Machine.reg_halt, Machine.reg, hrefused.regs hret]
    rfl

theorem exists_sets (hp : a.before.pending? = none) {r : Reg}
    (h : a.after.reg r ≠ a.polled.reg r) : ∃ i, a.Executes i ∧ i.Sets r := by
  refine Classical.byContradiction fun hnone => h (reg_of_not_sets hp ?_)
  exact fun i he hi => hnone ⟨i, he, hi⟩

theorem flags_of_not_compares (hp : a.before.pending? = none)
    (hcmp : ∀ r s, ¬a.Executes (.binary .cmp r s)) (hret : ¬a.Executes .iret) :
    a.after.regs.flags = a.before.regs.flags := by
  have hne {i : Instruction} (he : a.Executes i) : i ≠ .iret := by
    rintro rfl
    exact hret he
  rw [← flags_polled]
  cases a.course with
  | dispatch n hn => cases hp.symm.trans hn
  | unread f _ _ _ hafter => rw [hafter, Machine.flags_halt]
  | executed i he _ heffect =>
    refine heffect.flags_of_ne ?_ (hne he)
    rintro r s rfl
    exact hcmp r s he
  | refused i f m he _ hrefused hafter =>
    rw [hafter, Machine.flags_halt, hrefused.regs (hne he)]

theorem load_changed (hp : a.before.pending? = none) {addr : Byte}
    (h : a.after.memory.load addr ≠ a.before.memory.load addr) :
    (∃ r s, a.Executes (.st r s) ∧ addr = a.polled.reg r) ∨
      (∃ r, a.Executes (.push r) ∨ a.Executes (.call r)) ∧
        addr.toNat + 1 = (a.before.reg Reg.sp).toNat := by
  rw [← memory_polled] at h
  cases a.course with
  | dispatch n hn => cases hp.symm.trans hn
  | unread f _ _ _ hafter => exact absurd (by rw [hafter, Machine.memory_halt]) h
  | executed i he _ heffect =>
    rw [← reg_sp_polled]
    rcases heffect.stores_of_load_ne h with ⟨r, s, rfl, haddr⟩ | ⟨⟨r, rfl | rfl⟩, haddr⟩
    · exact .inl ⟨r, s, he, haddr⟩
    · exact .inr ⟨⟨r, .inl he⟩, haddr⟩
    · exact .inr ⟨⟨r, .inr he⟩, haddr⟩
  | refused i f m _ _ hrefused hafter =>
    exact absurd (by rw [hafter, Machine.memory_halt, hrefused.memory]) h

/-- A request that a program makes is added to those that the timer left, unless its number is out of
range. -/
theorem Executes.requests {r : Reg} (h : a.Executes (.int r)) :
    a.after.reg Reg.is = a.polled.reg Reg.is ∨
      ∃ n : Fin 8, (a.polled.reg r).toNat = n ∧
        a.after.reg Reg.is = a.polled.reg Reg.is ||| Byte.bit n := by
  rcases h.effect_or_refusal with ⟨-, heffect⟩ | ⟨f, m, -, hrefused, hafter⟩
  · refine .inr ?_
    generalize a.after = m at heffect
    cases heffect with
    | int n hn => exact ⟨n, hn, Machine.reg_setReg_self _ _ _⟩
  · cases hrefused
    rw [hafter]
    exact .inl rfl

theorem is_of_eq_polled (h : a.after.reg Reg.is = a.polled.reg Reg.is)
    (hne : a.after.reg Reg.is ≠ a.before.reg Reg.is) :
    a.tick = true ∧
      a.after.reg Reg.is = a.before.reg Reg.is ||| Byte.bit Machine.timerInterrupt := by
  have hpoll : a.polled.reg Reg.is = _ := Machine.reg_is_poll a.before a.tick
  rw [hpoll] at h
  split at h
  · next ht => exact ⟨ht, h⟩
  · exact absurd h hne

theorem is_changed (hp : a.before.pending? = none)
    (hne : a.after.reg Reg.is ≠ a.before.reg Reg.is) :
    (a.tick = true ∧
        a.after.reg Reg.is = a.before.reg Reg.is ||| Byte.bit Machine.timerInterrupt) ∨
      (∃ (r : Reg) (n : Fin 8), a.Executes (.int r) ∧ (a.polled.reg r).toNat = n ∧
        a.after.reg Reg.is = a.polled.reg Reg.is ||| Byte.bit n) ∨
      ∃ i, a.Executes i ∧ (i = .iret ∨ i.dest? = some Reg.is) := by
  by_cases hsame : a.after.reg Reg.is = a.polled.reg Reg.is
  · exact .inl (is_of_eq_polled hsame hne)
  · obtain ⟨i, he, hret | hdest | ⟨hsp, -⟩ | ⟨-, r, rfl⟩⟩ := exists_sets hp hsame
    · exact .inr (.inr ⟨i, he, .inl hret⟩)
    · exact .inr (.inr ⟨i, he, .inr hdest⟩)
    · cases hsp
    · obtain ⟨n, hn, his⟩ := he.requests.resolve_left hsame
      exact .inr (.inl ⟨r, n, he, hn, his⟩)

theorem running_changed (h : a.after.running ≠ a.before.running) :
    a.before.running = true ∧ (a.Executes .hlt ∨ a.fault.isSome) := by
  have hiff := a.running_after_iff
  have hbefore : a.before.running = true := by
    by_contra hidle
    have hafter : ¬a.after.running = true := fun hruns => hidle (hiff.1 hruns).1
    rw [Bool.not_eq_true] at hidle hafter
    exact h (hafter.trans hidle.symm)
  refine ⟨hbefore, ?_⟩
  by_cases hhlt : a.Executes .hlt
  · exact .inl hhlt
  · refine .inr (Option.isSome_iff_ne_none.2 fun hf => ?_)
    exact h (running_of_goesOn ⟨hf, hhlt⟩)

theorem Dispatches.confined {n : Fin 8} (h : a.Dispatches n) : a.Confined := by
  have hleft := h.interrupted
  have hstarts : a.Starts := starts_iff.2 ⟨n, h⟩
  refine ⟨?_, ?_, fun _ => .inl hstarts, fun _ => .inl hstarts, fun _ => .inl ⟨n, h, hleft.is⟩,
    fun _ => .inl hstarts, ?_, ?_, running_changed⟩
  · intro addr hne
    have hin : ¬(addr < a.after.reg Reg.sp ∨ a.before.reg Reg.sp ≤ addr) :=
      fun hout => hne (hleft.outside addr hout)
    rw [not_or, BitVec.not_lt, BitVec.not_le, BitVec.le_def, BitVec.lt_def] at hin
    -- As much of the frame as was pushed, all of it or not, has at most nine bytes.
    have hsp := hleft.sp
    refine .inl ⟨hstarts, ?_, hin.2⟩
    split at hsp <;> omega
  · exact fun hne => absurd hleft.flags hne
  · intro r hr hne
    obtain ⟨him, his, hsp⟩ := Reg.ne_of_mem_general hr
    exact absurd (hleft.reg r him his hsp) hne
  · exact fun hne => absurd hleft.sink hne

theorem confined_of_undispatched (hp : a.before.pending? = none) : a.Confined := by
  have hsets {r : Reg} (hr : r ≠ Reg.is) (hne : a.after.reg r ≠ a.before.reg r) :
      ∃ i, a.Executes i ∧ i.Sets r := by
    rw [← a.reg_polled_of_ne hr] at hne
    exact exists_sets hp hne
  refine ⟨fun addr hne => .inr (load_changed hp hne), ?_, ?_, ?_, ?_, ?_, ?_, ?_, running_changed⟩
  · intro hne
    by_contra hnone
    rw [not_or, not_exists] at hnone
    exact hne (flags_of_not_compares hp (fun r s he => hnone.1 r ⟨s, he⟩) hnone.2)
  · intro hne
    by_contra hnone
    rw [not_or] at hnone
    exact hne (savedMask_of_not_returns hp hnone.2)
  · intro hne
    obtain ⟨i, he, hi⟩ := hsets (by decide) hne
    exact .inr ⟨i, he, Instruction.sets_sp hi⟩
  · intro hne
    refine .inr ?_
    rcases is_changed hp hne with ⟨ht, his⟩ | hchanged
    · exact .inl ⟨hp, ht, his⟩
    · exact .inr hchanged
  · intro hne
    obtain ⟨i, he, hi⟩ := hsets (by decide) hne
    exact .inr ⟨i, he, Instruction.sets_of_ne (by decide) (by decide) hi⟩
  · intro r hr hne
    obtain ⟨-, his, hsp⟩ := Reg.ne_of_mem_general hr
    obtain ⟨i, he, hi⟩ := hsets his hne
    exact ⟨i, he, Instruction.sets_of_ne hsp his hi⟩
  · intro hne
    by_contra hnot
    exact hne (sink_of_not_prints hnot)

/-- Each part of the machine changes only in the steps that are there to change it, also where the
step meets a fault half way. -/
theorem changes_confined (a : Attempt) : a.Confined := by
  cases hp : a.before.pending? with
  | some n => exact Dispatches.confined hp
  | none => exact confined_of_undispatched hp

end Attempt

end ByteMachine
