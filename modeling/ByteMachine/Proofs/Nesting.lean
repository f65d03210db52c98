import ByteMachine.Proofs.Cycle

/-! Interrupts do not nest. A dispatch puts the mask aside even if it then meets a fault; the next
return that goes through brings the mask back, and nothing else touches the one that was put
aside. -/

namespace ByteMachine

/-- A refused instruction leaves the mask where it was put aside. -/
theorem Refusal.savedMask {m m' : Machine} {i : Instruction} {f : Fault} (h : Refusal m i f m') :
    m'.savedMask = m.savedMask := by
  cases h with
  | iret hpop =>
    have hkept := m.savedMask_popAll Slot.frame.reverse
    rwa [hpop] at hkept
  | _ => rfl

namespace Attempt

def Starts (a : Attempt) : Prop := a.before.pending?.isSome

/-- A return from an interrupt goes through. -/
def Returns (a : Attempt) : Prop := a.Executes .iret ∧ a.fault = none

/-- A return goes through and finds a mask put aside. -/
def Unmasks (a : Attempt) : Prop := a.Returns ∧ a.before.savedMask.isSome

instance (a : Attempt) : Decidable a.Starts := inferInstanceAs (Decidable (_ = true))

instance (a : Attempt) : Decidable a.Returns := inferInstanceAs (Decidable (_ ∧ _))

instance (a : Attempt) : Decidable a.Unmasks := inferInstanceAs (Decidable (_ ∧ _))

variable {a : Attempt} {mask : Byte}

theorem Dispatches.savedMask {n : Fin 8} (h : a.Dispatches n) :
    a.after.savedMask = some (a.before.reg Reg.im) := by
  cases hf : a.fault with
  | none => exact (h.dispatched hf).savedMask
  | some f => exact (h.kept hf).2

/-- The mask that comes back is the one that was put aside, not the one that was popped. -/
theorem Returns.unmask (h : a.Returns) :
    a.after.savedMask = none ∧
      ∀ mask, a.before.savedMask = some mask → a.after.reg Reg.im = mask := by
  obtain ⟨m, hp, hafter⟩ := (h.1.effect h.2).exists_popped
  rw [hafter]
  refine ⟨Machine.savedMask_unmask m, ?_⟩
  intro mask hmask
  have hkept : m.savedMask = some mask := by rw [hp.savedMask, savedMask_polled, hmask]
  exact (Machine.unmask_of_some hkept).1

/-- Neither an instruction nor a fault in place of one touches the mask that was put aside, unless a
return goes through. -/
theorem savedMask_of_not_returns (hp : a.before.pending? = none) (hr : ¬a.Returns) :
    a.after.savedMask = a.before.savedMask := by
  cases a.course with
  | dispatch n hn => cases hp.symm.trans hn
  | unread f _ _ _ hafter => rw [hafter, Machine.savedMask_halt, savedMask_polled]
  | executed i he hf heffect =>
    have hne : i ≠ .iret := by
      rintro rfl
      exact hr ⟨he, hf⟩
    rw [heffect.savedMask hne, savedMask_polled]
  | refused i f m _ _ hrefused hafter =>
    rw [hafter, Machine.savedMask_halt, hrefused.savedMask, savedMask_polled]

theorem savedMask_after (hmask : a.before.savedMask = some mask) (hr : ¬a.Returns) :
    a.after.savedMask = some mask := by
  rw [savedMask_of_not_returns (Machine.pending?_of_some hmask) hr, hmask]

end Attempt

namespace Machine

/-- How many interrupts are dispatched and not yet returned from. -/
def depth (m : Machine) : Nat := if m.savedMask.isSome then 1 else 0

theorem savedMask_stepAll {m : Machine} {mask : Byte} {ticks : List Bool}
    (hmask : m.savedMask = some mask) (hr : ∀ a ∈ m.attempts ticks, ¬a.Returns) :
    (m.stepAll ticks).savedMask = some mask := by
  induction ticks generalizing m with
  | nil => exact hmask
  | cons tick ticks ih =>
    rw [attempts, List.forall_mem_cons] at hr
    exact ih (Attempt.savedMask_after hmask hr.1) hr.2

end Machine

/-- A dispatch goes one level down, and a return that finds a mask put aside comes up again. -/
theorem Attempt.depth_after (a : Attempt) :
    (if a.Starts then 1 else 0) + a.before.depth =
      (if a.Unmasks then 1 else 0) + a.after.depth := by
  -- A dispatch starts only while no mask is put aside, so the level before it is zero.
  cases hp : a.before.pending? with
  | some n =>
    have hnone : a.before.savedMask = none := Machine.savedMask_of_pending? hp
    have hafter : a.after.savedMask = some _ := Dispatches.savedMask hp
    simp [Starts, Unmasks, Machine.depth, hp, hnone, hafter]
  | none =>
    by_cases hr : a.Returns
    · simp [Starts, Unmasks, Machine.depth, hp, hr, hr.unmask.1]
    · simp [Starts, Unmasks, Machine.depth, hp, hr, savedMask_of_not_returns hp hr]

theorem Machine.depth_stepAll (m : Machine) (ticks : List Bool) :
    (m.attempts ticks).countP (·.Starts) + m.depth =
      (m.attempts ticks).countP (·.Unmasks) + (m.stepAll ticks).depth := by
  induction ticks generalizing m with
  | nil => rfl
  | cons tick ticks ih =>
    have hrest := ih (m.step tick).machine
    have hstep : (if (⟨m, tick⟩ : Attempt).Starts then 1 else 0) + m.depth =
        (if (⟨m, tick⟩ : Attempt).Unmasks then 1 else 0) + (m.step tick).machine.depth :=
      Attempt.depth_after ⟨m, tick⟩
    simp only [attempts, stepAll, List.countP_cons, decide_eq_true_eq]
    omega

/-- The machine is at work on an interrupt that was dispatched under `mask`: the mask is put aside,
no interrupt is dispatched, and a return that goes through brings the mask back. -/
structure Machine.Handles (mask : Byte) (m : Machine) : Prop where
  savedMask : m.savedMask = some mask
  pending? : m.pending? = none
  back : ∀ a : Attempt, a.before = m → a.Returns →
    a.after.reg Reg.im = mask ∧ a.after.savedMask = none

theorem Machine.handles_of_savedMask {m : Machine} {mask : Byte} (h : m.savedMask = some mask) :
    m.Handles mask where
  savedMask := h
  pending? := pending?_of_some h
  back a ha hret := ⟨hret.unmask.2 mask (by rwa [ha]), hret.unmask.1⟩

/-- From the start of a dispatch, whether or not it goes through, the machine is at work on the
interrupt until a return goes through. So dispatches exceed returns by one while a mask is put
aside, and otherwise there are as many of them. -/
theorem Machine.handles_until_return {m : Machine} (h : m.savedMask = none) :
    (∀ (before : List Bool) (n : Fin 8) (tick : Bool) (later : List Bool),
      (m.stepAll before).pending? = some n →
      (∀ a ∈ (m.stepAll (before ++ [tick])).attempts later, ¬a.Returns) →
      (m.stepAll (before ++ tick :: later)).Handles ((m.stepAll before).reg Reg.im)) ∧
    ∀ ticks, (m.attempts ticks).countP (·.Starts) =
      (m.attempts ticks).countP (·.Unmasks) +
        if (m.stepAll ticks).savedMask.isSome then 1 else 0 := by
  refine ⟨?_, ?_⟩
  · intro before n tick later hn hr
    have hstart : (m.stepAll (before ++ [tick])).savedMask =
        some ((m.stepAll before).reg Reg.im) := by
      rw [stepAll_append]
      exact Attempt.Dispatches.savedMask (a := ⟨m.stepAll before, tick⟩) hn
    have hkept := savedMask_stepAll hstart hr
    rw [← stepAll_append, List.append_assoc, List.singleton_append] at hkept
    exact handles_of_savedMask hkept
  · intro ticks
    have hdepth := m.depth_stepAll ticks
    rwa [show m.depth = 0 by simp [depth, h], Nat.add_zero] at hdepth

/-- Interrupt 0 is pending, but there is no room for its frame. The program sets the mask to 7 and
returns. -/
def cramped : Machine :=
  (((((Machine.fresh .unbounded).setReg Reg.im 1).setReg Reg.is 1).setReg Reg.sp 4).goto 32).patch
    [(32, 0x82), (33, 5), (34, 7), (35, 0x13)]

theorem handles_until_return_cramped :
    cramped.savedMask = none ∧ cramped.pending? = some 0 ∧
      (cramped.step false).fault = some .stackOverflow ∧
      (∀ a ∈ (cramped.stepAll [false]).attempts [true], ¬a.Returns) ∧
      (cramped.stepAll [false, true]).Handles 1 ∧
      (cramped.stepAll [false, true]).reg Reg.im = 7 ∧
      (cramped.stepAll [false, true, false]).reg Reg.im = 1 ∧
      (cramped.attempts [false, true, false]).countP (·.Starts) = 1 := by
  have hnone : cramped.savedMask = none := by decide +kernel
  have hpending : cramped.pending? = some 0 := by decide +kernel
  have hopen : ∀ a ∈ (cramped.stepAll [false]).attempts [true], ¬a.Returns := by decide +kernel
  have hreturn : (⟨cramped.stepAll [false, true], false⟩ : Attempt).Returns := by decide +kernel
  obtain ⟨hrun, hcount⟩ := Machine.handles_until_return hnone
  have hhandles := hrun [] 0 false [true] hpending hopen
  refine ⟨hnone, hpending, by decide +kernel, hopen, hhandles, by decide +kernel, ?_, ?_⟩
  · exact (hhandles.back _ rfl hreturn).1
  · rw [hcount]
    decide +kernel

end ByteMachine
