import ByteMachine.Proofs.Step

/-! Steps that may meet a fault, and sequences of them. A fault stops the machine, but not a
sequence of steps: the next one begins with what the fault left. -/

namespace ByteMachine

/-- A step of the machine, whether or not it goes through. -/
structure Attempt where
  before : Machine
  tick : Bool

namespace Attempt

def after (a : Attempt) : Machine := (a.before.step a.tick).machine

def fault (a : Attempt) : Option Fault := (a.before.step a.tick).fault

/-- The machine after the timer was asked, as the instruction finds it. -/
def polled (a : Attempt) : Machine := a.before.poll a.tick

/-- The step starts to dispatch interrupt `n`. -/
def Dispatches (a : Attempt) (n : Fin 8) : Prop := a.before.pending? = some n

/-- The step starts to execute the instruction. -/
def Executes (a : Attempt) (i : Instruction) : Prop :=
  a.before.pending? = none ∧ a.polled.fetch = .ok i

instance (m : Machine) (i : Instruction) : Decidable (m.fetch = .ok i) :=
  match m.fetch with
  | .ok j => decidable_of_iff (j = i) (by simp)
  | .error _ => .isFalse nofun

instance (a : Attempt) (n : Fin 8) : Decidable (a.Dispatches n) :=
  inferInstanceAs (Decidable (_ = _))

instance (a : Attempt) (i : Instruction) : Decidable (a.Executes i) :=
  inferInstanceAs (Decidable (_ ∧ _))

variable {a : Attempt} {n : Fin 8} {i : Instruction} {f : Fault}

@[simp] theorem pc_polled (a : Attempt) : a.polled.pc = a.before.pc := Machine.pc_poll _ _

@[simp] theorem savedMask_polled (a : Attempt) : a.polled.savedMask = a.before.savedMask :=
  Machine.savedMask_poll _ _

@[simp] theorem memory_polled (a : Attempt) : a.polled.memory = a.before.memory :=
  Machine.memory_poll _ _

@[simp] theorem flags_polled (a : Attempt) : a.polled.regs.flags = a.before.regs.flags :=
  Machine.flags_poll _ _

@[simp] theorem sink_polled (a : Attempt) : a.polled.sink = a.before.sink := Machine.sink_poll _ _

theorem reg_polled_of_ne (a : Attempt) {r : Reg} (h : r ≠ Reg.is) :
    a.polled.reg r = a.before.reg r :=
  Machine.reg_poll_of_ne _ _ h

theorem reg_sp_polled (a : Attempt) : a.polled.reg Reg.sp = a.before.reg Reg.sp :=
  a.reg_polled_of_ne (by decide)

theorem fails (h : a.fault = some f) : (a.before.step a.tick).Fails f a.after := ⟨h, rfl⟩

theorem yields (h : a.fault = none) : (a.before.step a.tick).Yields a.after := ⟨h, rfl⟩

/-- A step without a pending interrupt that goes through does what its instruction does. -/
theorem exists_effect (hp : a.before.pending? = none) (hf : a.fault = none) :
    ∃ i, a.Executes i ∧ Effect a.polled i a.after := by
  obtain ⟨i, hi, he⟩ := (Machine.yields_cycle_of_none hp).1 (Machine.yields_step.1 (yields hf))
  exact ⟨i, ⟨hp, hi⟩, he⟩

theorem Executes.inj (hi : a.Executes i) {j : Instruction} (hj : a.Executes j) : i = j :=
  Except.ok.inj (hi.2.symm.trans hj.2)

theorem Executes.ne_dispatches (h : a.Executes i) : ¬a.Dispatches n := by
  intro hn
  cases h.1.symm.trans hn

theorem Executes.effect (h : a.Executes i) (hf : a.fault = none) : Effect a.polled i a.after := by
  obtain ⟨j, hj, he⟩ := exists_effect h.1 hf
  obtain rfl : i = j := h.inj hj
  exact he

theorem Dispatches.dispatched (h : a.Dispatches n) (hf : a.fault = none) :
    Machine.Dispatched n a.before a.after :=
  Machine.dispatched_of_yields
    ((Machine.yields_cycle_of_some h).1 (Machine.yields_step.1 (yields hf)))

theorem Dispatches.kept (h : a.Dispatches n) (hf : a.fault = some f) :
    a.after.pc = a.before.pc ∧ a.after.savedMask = some (a.before.reg Reg.im) := by
  obtain ⟨m, hm, hafter⟩ := Machine.fails_step.1 (fails hf)
  have hcycle : a.before.cycle a.tick = a.before.dispatch n := by
    rw [Machine.cycle, show a.before.pending? = some n from h]
  rw [hcycle] at hm
  rw [hafter, Machine.pc_halt, Machine.savedMask_halt]
  exact Machine.kept_of_fails_dispatch hm

/-- What a step does: it dispatches an interrupt, finds no instruction that it could read, executes
one, or meets a fault in executing it. -/
inductive Course (a : Attempt) : Prop where
  | dispatch (n : Fin 8) : a.Dispatches n → Course a
  | unread (f : Fault) : a.before.pending? = none → a.polled.fetch = .error f →
    a.fault = some f → a.after = a.polled.halt → Course a
  | executed (i : Instruction) : a.Executes i → a.fault = none → Effect a.polled i a.after →
    Course a
  | refused (i : Instruction) (f : Fault) (m : Machine) : a.Executes i → a.fault = some f →
    Refusal a.polled i f m → a.after = m.halt → Course a

theorem course (a : Attempt) : a.Course := by
  cases hp : a.before.pending? with
  | some n => exact .dispatch n hp
  | none =>
    have hfails {f : Fault} {m : Machine} : (a.before.cycle a.tick).Fails f m →
        a.fault = some f ∧ a.after = m.halt :=
      fun h => Machine.fails_step.2 ⟨m, h, rfl⟩
    cases hfetch : a.polled.fetch with
    | error f =>
      obtain ⟨hf, hafter⟩ := hfails ((Machine.fails_cycle_of_none hp).2 (.inl ⟨hfetch, rfl⟩))
      exact .unread f hp hfetch hf hafter
    | ok i =>
      have he : a.Executes i := ⟨hp, hfetch⟩
      cases hf : a.fault with
      | none => exact .executed i he hf (he.effect hf)
      | some f =>
        obtain ⟨m, hm, hafter⟩ := Machine.fails_step.1 (fails hf)
        rcases (Machine.fails_cycle_of_none hp).1 hm with ⟨herror, -⟩ | ⟨j, hj, hrefused⟩
        · cases hfetch.symm.trans herror
        · obtain rfl : i = j := Except.ok.inj (hfetch.symm.trans hj)
          exact .refused i f m he hf hrefused hafter

theorem Executes.effect_or_refusal (h : a.Executes i) :
    (a.fault = none ∧ Effect a.polled i a.after) ∨
      ∃ f m, a.fault = some f ∧ Refusal a.polled i f m ∧ a.after = m.halt := by
  cases a.course with
  | dispatch n hn => exact (h.ne_dispatches hn).elim
  | unread f _ hf _ _ => cases h.2.symm.trans hf
  | executed j hj hf heffect =>
    obtain rfl : i = j := h.inj hj
    exact .inl ⟨hf, heffect⟩
  | refused j f m hj hf hrefused hafter =>
    obtain rfl : i = j := h.inj hj
    exact .inr ⟨f, m, hf, hrefused, hafter⟩

end Attempt

namespace Machine

/-- The steps that the machine takes, one after another, while the timer answers `ticks`. -/
def attempts (m : Machine) : List Bool → List Attempt
  | [] => []
  | tick :: ticks => ⟨m, tick⟩ :: (m.step tick).machine.attempts ticks

/-- The machine after these steps. -/
def stepAll (m : Machine) : List Bool → Machine
  | [] => m
  | tick :: ticks => (m.step tick).machine.stepAll ticks

theorem stepAll_append (m : Machine) (ticks ticks' : List Bool) :
    m.stepAll (ticks ++ ticks') = (m.stepAll ticks).stepAll ticks' := by
  induction ticks generalizing m with
  | nil => rfl
  | cons tick ticks ih => exact ih _

end Machine

end ByteMachine
