import ByteMachine.Proofs.Cycle

/-! What stops a machine. A halt does and so does a fault; nothing else touches whether it runs. -/

namespace ByteMachine

namespace Machine

theorem halt_of_not_running {m : Machine} (h : m.running = false) : m.halt = m := by
  rw [halt, ← h]

theorem running_poll (m : Machine) (tick : Bool) : (m.poll tick).running = m.running := by
  cases tick <;> rfl

theorem running_pushAll (m : Machine) (vs : List Byte) :
    (m.pushAll vs).1.running = m.running := by
  induction vs generalizing m with
  | nil => rfl
  | cons v vs ih =>
    by_cases hsp : m.reg Reg.sp = 0
    · simp [pushAll, push, hsp]
    · rw [pushAll, push_of_ne_zero v hsp]
      exact ih _

theorem running_popAll (m : Machine) (slots : List Slot) :
    (m.popAll slots).1.running = m.running := by
  induction slots generalizing m with
  | nil => rfl
  | cons slot slots ih =>
    by_cases hlast : m.reg Reg.sp = 255
    · rw [popAll_cons_of_last m hlast]
    · rw [popAll_cons m hlast]
      exact ih _

theorem running_unmask (m : Machine) : m.unmask.running = m.running := by
  unfold unmask
  split <;> rfl

theorem running_dispatch (m : Machine) (n : Fin 8) :
    (m.dispatch n).machine.running = m.running := by
  have hpush := (m.acknowledge n).running_pushAll (Slot.frame.map (Slot.get (m.acknowledge n).regs))
  have hack : (m.acknowledge n).running = m.running := rfl
  rw [hack] at hpush
  simp only [dispatch]
  split
  · split
    · next h => rwa [h] at hpush
    · next h => rwa [h] at hpush
  · exact hack

end Machine

/-- No instruction but a halt touches whether the machine runs. -/
theorem Effect.running {m m' : Machine} {i : Instruction} (h : Effect m i m') (hi : i ≠ .hlt) :
    m'.running = m.running := by
  cases h with
  | hlt => exact absurd rfl hi
  | iret hpop =>
    have hkept := m.running_popAll Slot.frame.reverse
    rwa [hpop, ← Machine.running_unmask] at hkept
  | _ => rfl

theorem Effect.eq_of_hlt {m m' : Machine} (h : Effect m .hlt m') :
    m' = m.halt.goto (m.pc + 1) := by
  cases h
  rfl

namespace Attempt

variable {a : Attempt}

/-- The step goes through and is no halt. -/
def GoesOn (a : Attempt) : Prop := a.fault = none ∧ ¬a.Executes .hlt

instance (a : Attempt) : Decidable a.GoesOn := inferInstanceAs (Decidable (_ ∧ _))

/-- A halt stops the machine and moves it past itself. -/
theorem Executes.halted (h : a.Executes .hlt) :
    a.fault = none ∧ a.after = a.polled.halt.goto (a.before.pc + 1) := by
  rcases h.effect_or_refusal with ⟨hf, heffect⟩ | ⟨f, m, -, hrefused, -⟩
  · refine ⟨hf, ?_⟩
    rw [heffect.eq_of_hlt, pc_polled]
  · cases hrefused

theorem running_of_fault {f : Fault} (hf : a.fault = some f) : a.after.running = false := by
  obtain ⟨m, -, hafter⟩ := Machine.fails_step.1 (fails hf)
  rw [hafter]
  rfl

theorem running_of_goesOn (h : a.GoesOn) : a.after.running = a.before.running := by
  cases a.course with
  | dispatch n hn =>
    have hy := (Machine.yields_cycle_of_some hn).1 (Machine.yields_step.1 ⟨h.1, rfl⟩)
    rw [← Machine.running_dispatch a.before n, hy.2]
    rfl
  | unread f _ _ hf _ => cases h.1.symm.trans hf
  | executed i he _ heffect =>
    have hne : i ≠ .hlt := by
      rintro rfl
      exact h.2 he
    rw [heffect.running hne]
    exact Machine.running_poll _ _
  | refused i f m _ hf _ _ => cases h.1.symm.trans hf

/-- The machine runs after a step exactly if it ran before it and the step does not stop it. -/
theorem running_after_iff (a : Attempt) :
    a.after.running = true ↔ a.before.running = true ∧ a.GoesOn := by
  by_cases h : a.GoesOn
  · simp [running_of_goesOn h, h]
  · have hstopped : a.after.running = false := by
      cases hf : a.fault with
      | some f => exact running_of_fault hf
      | none =>
        have hhlt : a.Executes .hlt := Decidable.byContradiction fun hne => h ⟨hf, hne⟩
        rw [hhlt.halted.2]
        rfl
    simp [hstopped, h]

end Attempt

end ByteMachine
