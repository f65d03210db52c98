import ByteMachine.Proofs.Steady

/-! Runs taken in slices. Where the limit of a run cut it off, another run goes on as if there had
been no cut; a run that ended by itself would have ended so under every larger limit. -/

namespace ByteMachine

namespace Machine

variable {m m' : Machine} {tick : Bool} {a b : Nat} {result : Except Fault Nat}

theorem attempt_add (a i : Nat) : (m.stepped tick a).attempt tick i = m.attempt tick (a + i) := by
  rw [attempt, attempt, stepped_add]

theorem GoesOn.add (h : m.GoesOn tick a) (h' : (m.stepped tick a).GoesOn tick b) :
    m.GoesOn tick (a + b) := by
  intro j hj
  by_cases hja : j < a
  · exact h j hja
  · obtain ⟨i, rfl⟩ : ∃ i, j = a + i := ⟨j - a, by omega⟩
    have hi : i < b := by omega
    have hgo := h' i hi
    rwa [attempt_add] at hgo

theorem running_stepped (hrun : m.running = true) (h : m.GoesOn tick a) :
    (m.stepped tick a).running = true := by
  induction a with
  | zero => exact hrun
  | succ a ih =>
    have hbefore : (m.stepped tick a).running = true := ih fun j hj => h j (by omega)
    rw [stepped_succ, Attempt.running_after_iff]
    exact ⟨hbefore, h a (by omega)⟩

/-- Starting a machine again undoes the halt of one that ran. -/
theorem start_halt (hrun : m.running = true) : m.halt.start = m := by
  obtain ⟨regs, memory, savedMask, running, sink⟩ := m
  obtain rfl : running = true := hrun
  rfl

/-- A run with this result ended by itself: it met a fault, or its last step was a halt. -/
def EndsItself (m : Machine) (tick : Bool) : Except Fault Nat → Prop
  | .ok n => ∃ i, n = i + 1 ∧ (m.attempt tick i).Executes .hlt
  | .error _ => True

theorem Ends.eq_of_not_endsItself (h : m.Ends tick (some a) m' result)
    (hcut : ¬m.EndsItself tick result) :
    m.GoesOn tick a ∧ m' = (m.stepped tick a).halt ∧ result = .ok a := by
  cases h with
  | halted i _ _ hhlt => exact absurd ⟨i, rfl, hhlt⟩ hcut
  | faulted => exact absurd trivial hcut
  | cutOff n hn hgo =>
    obtain rfl : a = n := Option.some.inj hn
    exact ⟨hgo, rfl, rfl⟩

theorem Ends.widen (h : m.Ends tick (some a) m' result) (hself : m.EndsItself tick result)
    {limit : Option Nat} (hlimit : a ≤ limit.getD System.cycleRange) :
    m.Ends tick limit m' result := by
  cases h with
  | halted i hi hgo hhlt => exact .halted i (Nat.lt_of_lt_of_le hi hlimit) hgo hhlt
  | faulted i f hi hgo hf => exact .faulted i f (Nat.lt_of_lt_of_le hi hlimit) hgo hf
  | cutOff n hn hgo =>
    -- The last step of such a run goes on, so it is no halt.
    obtain ⟨i, rfl, hhlt⟩ := hself
    exact absurd hhlt (hgo i (by omega)).2

/-- After `a` steps that go on, what is left of a run ends as the whole run does. -/
theorem Ends.prepend (h : m.GoesOn tick a)
    (hrest : (m.stepped tick a).Ends tick (some b) m' result) :
    m.Ends tick (some (a + b)) m' (result.map (a + ·)) := by
  cases hrest with
  | halted i hi hgo hhlt =>
    have hlt : a + i < a + b := Nat.add_lt_add_left hi a
    rw [attempt_add] at hhlt
    rw [← stepped_add]
    exact .halted (a + i) hlt (h.add hgo) hhlt
  | faulted i f hi hgo hf =>
    have hlt : a + i < a + b := Nat.add_lt_add_left hi a
    rw [attempt_add] at hf
    rw [← stepped_add]
    exact .faulted (a + i) f hlt (h.add hgo) hf
  | cutOff n hn hgo =>
    obtain rfl : b = n := Option.some.inj hn
    rw [← stepped_add]
    exact .cutOff (a + b) rfl (h.add hgo)

end Machine

namespace System

/-- A run whose limit cut it off is continued by another one as if it had not been cut; a run that
ended by itself ends in the same way under every larger limit and under none. -/
theorem run_sliced {s : System} {a : Nat} {clock : Nat → Nat} {tick : Bool} {first : Finished}
    (h : s.timer.Steady clock tick) (ha : a < cycleRange)
    (hfirst : s.run (some a) clock = some first) :
    (¬s.machine.start.EndsItself tick first.result →
      ∀ (b : Nat) (clock₂ clock₃ : Nat → Nat), s.timer.Steady clock₂ tick →
        s.timer.Steady clock₃ tick →
        ∃ second whole, first.system.run (some b) clock₂ = some second ∧
          s.run (some (a + b)) clock₃ = some whole ∧
          whole.system.machine = second.system.machine ∧
          whole.result = second.result.map (a + ·)) ∧
    (s.machine.start.EndsItself tick first.result →
      ∀ (limit : Option Nat) (clock₂ : Nat → Nat), (∀ n, limit = some n → a ≤ n) →
        s.timer.Steady clock₂ tick →
        ∃ other, s.run limit clock₂ = some other ∧
          other.system.machine = first.system.machine ∧ other.result = first.result) := by
  have hends := machine_ends_of_run h hfirst
  refine ⟨?_, ?_⟩
  · intro hcut b clock₂ clock₃ h₂ h₃
    obtain ⟨hgo, hmachine, -⟩ := hends.eq_of_not_endsItself hcut
    have hrestart : first.system.machine.start = s.machine.start.stepped tick a := by
      rw [hmachine]
      exact Machine.start_halt (Machine.running_stepped rfl hgo)
    have hperiod : first.system.timer.period = s.timer.period :=
      (run_eq_some_iff.1 hfirst).period
    have hsecond := h₂.of_period hperiod
    obtain ⟨second, hrun₂⟩ : ∃ second, first.system.run (some b) clock₂ = some second := by
      obtain ⟨second, hends₂⟩ := exists_ends (first.system.started (clock₂ 0)) clock₂ b
      exact ⟨second, run_of_ends hends₂⟩
    have hrest := machine_ends_of_run hsecond hrun₂
    rw [hrestart] at hrest
    obtain ⟨whole, hrun₃, hm, hr⟩ := run_of_machine_ends h₃ (.prepend hgo hrest)
    exact ⟨second, whole, hrun₂, hrun₃, hm, hr⟩
  · intro hself limit clock₂ hlimit h₂
    have hle : a ≤ limit.getD cycleRange := by
      cases limit with
      | none => exact Nat.le_of_lt ha
      | some n => exact hlimit n rfl
    exact run_of_machine_ends h₂ (hends.widen hself hle)

end System

/-- A cut in the first handler, and one right at the halt. -/
theorem run_sliced_busy :
    let m := busy.machine.start
    busy.timer.Steady id true ∧ 9 < System.cycleRange ∧
      (∃ first second whole, busy.run (some 3) id = some first ∧
        first.system.machine.savedMask = some 1 ∧ ¬m.EndsItself true first.result ∧
        first.system.run (some 10) id = some second ∧ busy.run (some 13) id = some whole ∧
        whole.system.machine = second.system.machine ∧
        whole.result = second.result.map (3 + ·)) ∧
      ∃ first other, busy.run (some 9) id = some first ∧ m.EndsItself true first.result ∧
        busy.run none id = some other ∧ other.system.machine = first.system.machine ∧
        other.result = .ok 9 := by
  intro m
  have hsteady : busy.timer.Steady id true := Timer.steady_of_period_zero rfl id
  have hrange : 9 < System.cycleRange := by decide +kernel
  have hgo : m.GoesOn true 8 := by decide +kernel
  have hhlt : (m.attempt true 8).Executes .hlt := by decide +kernel
  have hearly : m.GoesOn true 3 := fun j hj => hgo j (by omega)
  refine ⟨hsteady, hrange, ?_, ?_⟩
  · obtain ⟨first, hfirst, hmachine, hresult⟩ :=
      System.run_of_machine_ends hsteady (.cutOff 3 rfl hearly)
    have hmask : first.system.machine.savedMask = some 1 := by
      rw [hmachine, Machine.savedMask_halt]
      decide +kernel
    have hcut : ¬m.EndsItself true first.result := by
      rw [hresult]
      rintro ⟨i, hi, hlast⟩
      exact (hearly i (by omega)).2 hlast
    obtain ⟨hslices, -⟩ := System.run_sliced hsteady (by omega) hfirst
    obtain ⟨second, whole, hsecond, hwhole, hm, hr⟩ := hslices hcut 10 id id hsteady hsteady
    exact ⟨first, second, whole, hfirst, hmask, hcut, hsecond, hwhole, hm, hr⟩
  · have hends : m.Ends true (some 9) (m.stepped true 9) (.ok 9) :=
      .halted 8 (by decide) hgo hhlt
    obtain ⟨first, hfirst, -, hresult⟩ := System.run_of_machine_ends hsteady hends
    have hself : m.EndsItself true first.result := by
      rw [hresult]
      exact ⟨8, rfl, hhlt⟩
    obtain ⟨-, hwider⟩ := System.run_sliced hsteady hrange hfirst
    obtain ⟨other, hother, hm, hr⟩ := hwider hself none id nofun hsteady
    exact ⟨first, other, hfirst, hself, hother, hm, hr.trans hresult⟩

end ByteMachine
