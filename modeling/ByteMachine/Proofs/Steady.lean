import ByteMachine.Proofs.Ending

/-! Runs under a timer that never ticks and under one that ticks whenever it is asked. What the
machine then does depends on no clock: a limited run is so many steps of the machine, up to the
first one that stops it. -/

namespace ByteMachine

namespace Timer

variable {t : Timer} {clock : Nat → Nat} {tick : Bool}

/-- The answers of the timer when it is asked at these instants, one after another. -/
def answers (t : Timer) : List Nat → List Bool
  | [] => []
  | now :: later => (t.poll now).1 :: (t.poll now).2.answers later

/-- Started at the instant `clock 0`, the timer answers `tick` whenever it is asked, at whichever of
the later instants of the clock that is. -/
def Steady (t : Timer) (clock : Nat → Nat) (tick : Bool) : Prop :=
  ∀ ks : List Nat, (0 :: ks).Pairwise (· < ·) →
    ∀ answer ∈ (t.reset (clock 0)).answers (ks.map clock), answer = tick

theorem Steady.of_period {u : Timer} (h : t.Steady clock tick) (hp : u.period = t.period) :
    u.Steady clock tick := by
  have hreset : u.reset (clock 0) = t.reset (clock 0) := by rw [reset, reset, hp]
  rwa [Steady, hreset]

/-- A timer that always ticks has a full period between any two instants, one that never ticks has
none between the start and a later instant. -/
theorem Steady.elapsed (h : t.Steady clock tick) {j k : Nat} (hjk : j < k)
    (hj : tick = false → j = 0) : decide (t.period ≤ clock k - clock j) = tick := by
  rcases Nat.eq_zero_or_pos j with rfl | hpos
  · have hanswer := h [k] (by simp [hjk]) _ List.mem_cons_self
    rwa [poll_fst] at hanswer
  · obtain rfl : tick = true := by
      cases tick with
      | true => rfl
      | false =>
        have hzero := hj rfl
        omega
    have hk : 0 < k := by omega
    have hordered : [0, j, k].Pairwise (· < ·) := by simp [hpos, hk, hjk]
    have hall := h [j, k] hordered
    have hfirst : ((t.reset (clock 0)).poll (clock j)).1 = true := hall _ List.mem_cons_self
    have hreset : ((t.reset (clock 0)).poll (clock j)).2 = t.reset (clock j) := by
      rw [poll_fst, decide_eq_true_eq] at hfirst
      rw [poll, if_pos hfirst]
      rfl
    have hsecond : (((t.reset (clock 0)).poll (clock j)).2.poll (clock k)).1 = true :=
      hall _ (List.mem_cons_of_mem _ List.mem_cons_self)
    rwa [hreset, poll_fst] at hsecond

theorem answers_of_period_zero (h : t.period = 0) (instants : List Nat) :
    ∀ answer ∈ t.answers instants, answer = true := by
  induction instants generalizing t with
  | nil => exact nofun
  | cons now later ih =>
    rw [answers, List.forall_mem_cons]
    refine ⟨?_, ih ((t.period_poll now).trans h)⟩
    rw [poll_fst, h]
    simp

theorem steady_of_period_zero (h : t.period = 0) (clock : Nat → Nat) : t.Steady clock true :=
  fun ks _ => answers_of_period_zero (t := t.reset (clock 0)) h (ks.map clock)

theorem steady_of_lt_period (h : ∀ k, clock k - clock 0 < t.period) : t.Steady clock false := by
  have hpoll (k : Nat) : (t.reset (clock 0)).poll (clock k) = (false, t.reset (clock 0)) :=
    if_neg (Nat.not_le.2 (h k))
  have hall (ks : List Nat) :
      ∀ answer ∈ (t.reset (clock 0)).answers (ks.map clock), answer = false := by
    induction ks with
    | nil => exact nofun
    | cons k ks ih =>
      rw [List.map_cons, answers, hpoll, List.forall_mem_cons]
      exact ⟨rfl, ih⟩
  exact fun ks _ => hall ks

end Timer

namespace Attempt

/-- Steps from one machine come to the same unless the timer is asked and answers differently. -/
structure Agrees (a b : Attempt) : Prop where
  after : b.after = a.after
  fault : b.fault = a.fault
  executes : ∀ i, b.Executes i ↔ a.Executes i

theorem agrees_of_tick {a b : Attempt} (hbefore : b.before = a.before)
    (htick : a.before.pending? = none → b.tick = a.tick) : a.Agrees b := by
  obtain ⟨m, tick⟩ := a
  obtain ⟨m', tick'⟩ := b
  obtain rfl : m' = m := hbefore
  cases hp : m'.pending? with
  | none =>
    obtain rfl : tick' = tick := htick hp
    exact ⟨rfl, rfl, fun _ => Iff.rfl⟩
  | some n =>
    have hstep : m'.step tick' = m'.step tick := by
      simp only [Machine.step, Machine.cycle, hp]
    have hnone (t : Bool) (i : Instruction) : ¬(⟨m', t⟩ : Attempt).Executes i := by
      rintro ⟨h, -⟩
      cases h.symm.trans hp
    exact ⟨congrArg Outcome.machine hstep, congrArg Outcome.fault hstep,
      fun i => iff_of_false (hnone tick' i) (hnone tick i)⟩

theorem Agrees.goesOn {a b : Attempt} (h : a.Agrees b) : b.GoesOn ↔ a.GoesOn := by
  rw [GoesOn, GoesOn, h.fault, h.executes]

end Attempt

namespace Machine

variable {m : Machine} {tick : Bool} {k : Nat}

/-- The machine after `k` steps in which the timer, where it is asked, answers `tick`. -/
def stepped (m : Machine) (tick : Bool) (k : Nat) : Machine := m.stepAll (List.replicate k tick)

/-- The step that comes after these `k`. -/
def attempt (m : Machine) (tick : Bool) (k : Nat) : Attempt := ⟨m.stepped tick k, tick⟩

theorem stepped_succ : m.stepped tick (k + 1) = (m.attempt tick k).after := by
  rw [stepped, List.replicate_succ', stepAll_append]
  rfl

theorem stepped_add (j k : Nat) : m.stepped tick (j + k) = (m.stepped tick j).stepped tick k := by
  rw [stepped, ← List.replicate_append_replicate, stepAll_append]
  rfl

/-- None of the first `k` steps halts the machine or meets a fault. -/
def GoesOn (m : Machine) (tick : Bool) (k : Nat) : Prop := ∀ j < k, (m.attempt tick j).GoesOn

instance (m : Machine) (tick : Bool) (k : Nat) : Decidable (m.GoesOn tick k) :=
  inferInstanceAs (Decidable (∀ j < k, (m.attempt tick j).GoesOn))

def start (m : Machine) : Machine := { m with running := true }

/-- `Ends m tick limit m' result`: a run from `m` leaves `m'` and comes back with `result`. -/
inductive Ends (m : Machine) (tick : Bool) (limit : Option Nat) :
    Machine → Except Fault Nat → Prop where
  | halted (i : Nat) : i < limit.getD System.cycleRange → m.GoesOn tick i →
    (m.attempt tick i).Executes .hlt → Ends m tick limit (m.stepped tick (i + 1)) (.ok (i + 1))
  | faulted (i : Nat) (f : Fault) : i < limit.getD System.cycleRange → m.GoesOn tick i →
    (m.attempt tick i).fault = some f → Ends m tick limit (m.stepped tick (i + 1)) (.error f)
  | cutOff (n : Nat) : limit = some n → m.GoesOn tick n →
    Ends m tick limit (m.stepped tick n).halt (.ok n)

end Machine

namespace System

variable {s : System} {clock : Nat → Nat} {tick : Bool}

theorem poll_after (h : s.timer.Steady clock tick) {j k : Nat} (hjk : j ≤ k)
    (hlast : ((s.started (clock 0)).after clock k).timer.last = clock j)
    (hj : tick = false → j = 0) :
    (((s.started (clock 0)).after clock k).timer.poll (clock (k + 1))).1 = tick := by
  have hperiod : ((s.started (clock 0)).after clock k).timer.period = s.timer.period :=
    period_after
  rw [Timer.poll_fst, hperiod, hlast]
  exact h.elapsed (Nat.lt_succ_of_le hjk) hj

/-- The period under way began at the start or, if the timer ticks, at a later instant. -/
theorem exists_last_after (h : s.timer.Steady clock tick) (k : Nat) :
    ∃ j ≤ k, ((s.started (clock 0)).after clock k).timer.last = clock j ∧
      (tick = false → j = 0) := by
  induction k with
  | zero => exact ⟨0, Nat.le_refl 0, rfl, fun _ => rfl⟩
  | succ k ih =>
    obtain ⟨j, hjk, hlast, hj⟩ := ih
    have hanswer := poll_after h hjk hlast hj
    have hafter : ((s.started (clock 0)).after clock (k + 1)).timer =
        (((s.started (clock 0)).after clock k).tick (clock (k + 1))).2 := rfl
    rw [hafter, System.tick]
    split
    · exact ⟨j, by omega, hlast, hj⟩
    · rw [Timer.poll_fst] at hanswer
      rw [Timer.poll]
      split
      · next helapsed =>
        rw [decide_eq_true helapsed] at hanswer
        exact ⟨k + 1, Nat.le_refl _, rfl, fun hfalse => by cases hanswer.trans hfalse⟩
      · exact ⟨j, by omega, hlast, hj⟩

theorem tick_attempt (h : s.timer.Steady clock tick) {k : Nat}
    (hp : ((s.started (clock 0)).after clock k).machine.pending? = none) :
    ((s.started (clock 0)).attempt clock k).tick = tick := by
  obtain ⟨j, hjk, hlast, hj⟩ := exists_last_after h k
  have hasked : ((s.started (clock 0)).attempt clock k).tick =
      (((s.started (clock 0)).after clock k).timer.poll (clock (k + 1))).1 := by
    rw [attempt, System.tick, hp]
  rw [hasked]
  exact poll_after h hjk hlast hj

/-- The machine of a run is as far as its own steps take it. -/
theorem machine_after (h : s.timer.Steady clock tick) (k : Nat) :
    ((s.started (clock 0)).after clock k).machine = s.machine.start.stepped tick k := by
  induction k with
  | zero => rfl
  | succ k ih =>
    have hagrees :
        (s.machine.start.attempt tick k).Agrees ((s.started (clock 0)).attempt clock k) :=
      Attempt.agrees_of_tick ih fun hp => tick_attempt h (by rwa [ih])
    rw [machine_after_succ, hagrees.after, Machine.stepped_succ]

theorem agrees_attempt (h : s.timer.Steady clock tick) (k : Nat) :
    (s.machine.start.attempt tick k).Agrees ((s.started (clock 0)).attempt clock k) :=
  Attempt.agrees_of_tick (machine_after h k) fun hp =>
    tick_attempt h (by rwa [machine_after h k])

theorem goesOn_iff (h : s.timer.Steady clock tick) (k : Nat) :
    (s.started (clock 0)).GoesOn clock k ↔ s.machine.start.GoesOn tick k :=
  forall₂_congr fun j _ => (agrees_attempt h j).goesOn

theorem ends_iff (h : s.timer.Steady clock tick) {limit : Option Nat} {m : Machine}
    {result : Except Fault Nat} :
    (∃ done, (s.started (clock 0)).Ends clock limit done ∧ done.system.machine = m ∧
      done.result = result) ↔ s.machine.start.Ends tick limit m result := by
  constructor
  · rintro ⟨done, hends, rfl, rfl⟩
    cases hends with
    | halted i hi hgo hhlt =>
      rw [machine_after h]
      exact .halted i hi ((goesOn_iff h i).1 hgo) (((agrees_attempt h i).executes .hlt).1 hhlt)
    | faulted i f hi hgo hf =>
      rw [machine_after h]
      exact .faulted i f hi ((goesOn_iff h i).1 hgo) ((agrees_attempt h i).fault.symm.trans hf)
    | cutOff n hn hgo =>
      have hcut : ((s.started (clock 0)).cutOff clock n).machine =
          (s.machine.start.stepped tick n).halt := congrArg Machine.halt (machine_after h n)
      rw [hcut]
      exact .cutOff n hn ((goesOn_iff h n).1 hgo)
  · intro hends
    cases hends with
    | halted i hi hgo hhlt =>
      exact ⟨_, .halted i hi ((goesOn_iff h i).2 hgo)
        (((agrees_attempt h i).executes .hlt).2 hhlt), machine_after h (i + 1), rfl⟩
    | faulted i f hi hgo hf =>
      exact ⟨_, .faulted i f hi ((goesOn_iff h i).2 hgo) ((agrees_attempt h i).fault.trans hf),
        machine_after h (i + 1), rfl⟩
    | cutOff n hn hgo =>
      exact ⟨_, .cutOff n hn ((goesOn_iff h n).2 hgo), congrArg Machine.halt (machine_after h n),
        rfl⟩

theorem run_of_machine_ends (h : s.timer.Steady clock tick) {limit : Option Nat} {m : Machine}
    {result : Except Fault Nat} (hends : s.machine.start.Ends tick limit m result) :
    ∃ done, s.run limit clock = some done ∧ done.system.machine = m ∧ done.result = result := by
  obtain ⟨done, hdone, hm, hr⟩ := (ends_iff h).2 hends
  exact ⟨done, run_of_ends hdone, hm, hr⟩

theorem machine_ends_of_run (h : s.timer.Steady clock tick) {n : Nat} {done : Finished}
    (hrun : s.run (some n) clock = some done) :
    s.machine.start.Ends tick (some n) done.system.machine done.result :=
  (ends_iff h).1 ⟨done, run_eq_some_iff.1 hrun, rfl, rfl⟩

theorem eq_of_machine_ends (h : s.timer.Steady clock tick) {n : Nat} {done : Finished}
    (hrun : s.run (some n) clock = some done) {m : Machine} {result : Except Fault Nat}
    (hends : s.machine.start.Ends tick (some n) m result) :
    done.result = result ∧ done.system.machine = m := by
  obtain ⟨done', hrun', hm, hr⟩ := run_of_machine_ends h hends
  obtain rfl : done = done' := Option.some.inj (hrun.symm.trans hrun')
  exact ⟨hr, hm⟩

/-- A limited run comes back with its machine stopped. If one of its steps halts the machine and no
earlier step stopped it, the run leaves what that step left and counts it; if one meets a fault and
no earlier step stopped the machine, the run leaves what the fault left and reports it; otherwise it
leaves what `n` steps left and counts `n`. -/
theorem run_limited (s : System) (n : Nat) {clock : Nat → Nat} {tick : Bool}
    (h : s.timer.Steady clock tick) :
    ∃ done, s.run (some n) clock = some done ∧ done.system.machine.running = false ∧
      (∀ i < n, s.machine.start.GoesOn tick i →
        (s.machine.start.attempt tick i).Executes .hlt →
        done.result = .ok (i + 1) ∧
          done.system.machine = s.machine.start.stepped tick (i + 1) ∧
          done.system.machine.pc = (s.machine.start.stepped tick i).pc + 1) ∧
      (∀ i < n, ∀ f, s.machine.start.GoesOn tick i →
        (s.machine.start.attempt tick i).fault = some f →
        done.result = .error f ∧
          done.system.machine = s.machine.start.stepped tick (i + 1)) ∧
      (s.machine.start.GoesOn tick n →
        done.result = .ok n ∧ done.system.machine = (s.machine.start.stepped tick n).halt) := by
  obtain ⟨done, hends⟩ := exists_ends (s.started (clock 0)) clock n
  have hrun : s.run (some n) clock = some done := run_of_ends hends
  refine ⟨done, hrun, hends.running, ?_, ?_, ?_⟩
  · intro i hi hgo hhlt
    obtain ⟨hresult, hmachine⟩ := eq_of_machine_ends h hrun (.halted i hi hgo hhlt)
    have hpc : (s.machine.start.stepped tick (i + 1)).pc =
        (s.machine.start.stepped tick i).pc + 1 := by
      rw [Machine.stepped_succ, hhlt.halted.2, Machine.pc_goto]
      rfl
    exact ⟨hresult, hmachine, by rw [hmachine, hpc]⟩
  · intro i hi f hgo hf
    exact eq_of_machine_ends h hrun (.faulted i f hi hgo hf)
  · intro hgo
    exact eq_of_machine_ends h hrun (.cutOff n rfl hgo)

end System

/-- Increments R0 twice and halts. Interrupt 0 is let through, and its handler at address 32 puts 7
into R1. The timer ticks whenever it is asked. -/
def busy : System where
  machine := ((Machine.fresh .unbounded).setReg Reg.im 1).patch
    [(0, 0x65), (2, 0x65), (4, 0x01), (32, 0x82), (33, 1), (34, 7), (35, 0x13), (0xF8, 32)]
  timer := ⟨0, 0⟩
  log := #[]

theorem run_limited_busy :
    let m := busy.machine.start
    busy.timer.Steady id true ∧ busy.machine.running = false ∧ m.GoesOn true 8 ∧
      (m.attempt true 8).Executes .hlt ∧
      ∃ done, busy.run (some 9) id = some done ∧ done.result = .ok 9 ∧
        done.system.machine = m.stepped true 9 ∧ done.system.machine.pc = 5 ∧
        done.system.machine.running = false := by
  intro m
  have hsteady : busy.timer.Steady id true := Timer.steady_of_period_zero rfl id
  have hgo : m.GoesOn true 8 := by decide +kernel
  have hhlt : (m.attempt true 8).Executes .hlt := by decide +kernel
  have hpc : (m.stepped true 8).pc = 4 := by decide +kernel
  obtain ⟨done, hrun, hstopped, hhalted, -⟩ := System.run_limited busy 9 hsteady
  obtain ⟨hresult, hmachine, hnext⟩ := hhalted 8 (by decide) hgo hhlt
  exact ⟨hsteady, rfl, hgo, hhlt, done, hrun, hresult, hmachine, by rw [hnext, hpc], hstopped⟩

end ByteMachine
