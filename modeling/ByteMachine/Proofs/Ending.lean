import ByteMachine.Proofs.Running
import ByteMachine.Run

/-! How a run ends. It takes one step after another until one of them is a halt or meets a fault, or
until its cycles are used up, and keeps what the last step left. -/

namespace ByteMachine

/-- What a run that ended has put out. -/
def Finished.output (done : Finished) : List Byte := done.system.machine.sink.written.toList

namespace System

variable {s : System} {clock : Nat → Nat} {limit : Option Nat} {k : Nat}

/-- The system with its machine running and the period of its timer begun at `now`. -/
def started (s : System) (now : Nat) : System :=
  { s with machine := { s.machine with running := true }, timer := s.timer.reset now }

/-- The system after `k` steps, of which the first is taken at the instant `clock 1`. -/
def after (s : System) (clock : Nat → Nat) : Nat → System
  | 0 => s
  | k + 1 => ((s.after clock k).step (clock (k + 1))).1

/-- The step that comes after these `k`. -/
def attempt (s : System) (clock : Nat → Nat) (k : Nat) : Attempt :=
  ⟨(s.after clock k).machine, ((s.after clock k).tick (clock (k + 1))).1⟩

theorem machine_after_succ : (s.after clock (k + 1)).machine = (s.attempt clock k).after := rfl

theorem period_after : (s.after clock k).timer.period = s.timer.period := by
  induction k with
  | zero => rfl
  | succ k ih =>
    have hstep : (s.after clock (k + 1)).timer =
        ((s.after clock k).tick (clock (k + 1))).2 := rfl
    rw [hstep, ← ih, tick]
    split
    · rfl
    · exact Timer.period_poll _ _

/-- Any steps in a row of the system are steps of its machine. -/
theorem attempts_range' (s : System) (clock : Nat → Nat) (j k : Nat) :
    (s.after clock j).machine.attempts
        ((List.range' j k).map fun i => (s.attempt clock i).tick) =
      (List.range' j k).map (s.attempt clock) := by
  induction k generalizing j with
  | zero => rfl
  | succ k ih =>
    rw [List.range'_succ, List.map_cons, List.map_cons, ← ih (j + 1)]
    rfl

theorem stepAll_range' (s : System) (clock : Nat → Nat) (j k : Nat) :
    (s.after clock j).machine.stepAll
        ((List.range' j k).map fun i => (s.attempt clock i).tick) =
      (s.after clock (j + k)).machine := by
  induction k generalizing j with
  | zero => rfl
  | succ k ih =>
    have hsum : j + (k + 1) = j + 1 + k := by omega
    rw [List.range'_succ, List.map_cons, hsum, ← ih (j + 1)]
    rfl

/-- None of the first `k` steps halts the machine or meets a fault. -/
def GoesOn (s : System) (clock : Nat → Nat) (k : Nat) : Prop :=
  ∀ j < k, (s.attempt clock j).GoesOn

theorem running_after (hrun : s.machine.running = true) (h : s.GoesOn clock k) :
    (s.after clock k).machine.running = true := by
  induction k with
  | zero => exact hrun
  | succ k ih =>
    have hbefore := ih fun j hj => h j (Nat.lt_succ_of_lt hj)
    exact (Attempt.running_after_iff _).2 ⟨hbefore, h k (Nat.lt_succ_self k)⟩

/-- A machine still runs only if none of its steps stopped it. -/
theorem goesOn_of_running (h : (s.after clock k).machine.running = true) : s.GoesOn clock k := by
  induction k with
  | zero => exact nofun
  | succ k ih =>
    obtain ⟨hbefore, hlast⟩ := (Attempt.running_after_iff (s.attempt clock k)).1 h
    intro j hj
    rcases Nat.lt_succ_iff_lt_or_eq.1 hj with hlt | rfl
    · exact ih hbefore j hlt
    · exact hlast

/-- Either none of the first `n` steps stops the machine, or one of them is the first that does. -/
theorem goesOn_or_exists_first (s : System) (clock : Nat → Nat) (n : Nat) :
    s.GoesOn clock n ∨ ∃ i < n, s.GoesOn clock i ∧ ¬(s.attempt clock i).GoesOn := by
  induction n with
  | zero => exact .inl nofun
  | succ n ih =>
    rcases ih with h | ⟨i, hi, hfirst⟩
    · by_cases hn : (s.attempt clock n).GoesOn
      · refine .inl fun j hj => ?_
        rcases Nat.lt_succ_iff_lt_or_eq.1 hj with hlt | rfl
        · exact h j hlt
        · exact hn
      · exact .inr ⟨n, Nat.lt_succ_self n, h, hn⟩
    · exact .inr ⟨i, Nat.lt_succ_of_lt hi, hfirst⟩

/-- The run of the system after `k` cycles. -/
def runAt (s : System) (clock : Nat → Nat) (limit : Option Nat) (k : Nat) : Run :=
  ⟨s.after clock k, limit, k⟩

theorem atLimit_runAt : (s.runAt clock limit k).atLimit = true ↔ ∃ n, limit = some n ∧ n ≤ k := by
  cases limit with
  | none => simp [runAt, Run.atLimit]
  | some n =>
    have hcount : (s.runAt clock (some n) k).atLimit = decide (n ≤ k) := rfl
    simp [hcount]

theorem lt_of_atLimit_eq_false (h : (s.runAt clock limit k).atLimit = false) :
    ∀ n, limit = some n → k < n := by
  rintro n rfl
  have hcount : (s.runAt clock (some n) k).atLimit = decide (n ≤ k) := rfl
  rw [hcount, decide_eq_false_iff_not] at h
  exact Nat.lt_of_not_le h

theorem advance_runAt (hrun : (s.after clock k).machine.running = true)
    (hlimit : ∀ n, limit = some n → k < n) :
    (s.runAt clock limit k).advance (clock (k + 1)) =
      match (s.attempt clock k).fault with
      | none => .inl (s.runAt clock limit (k + 1))
      | some f => .inr ⟨s.after clock (k + 1), .error f⟩ := by
  have hon : (s.runAt clock limit k).system.machine.running = true := hrun
  have hleft : ¬(s.runAt clock limit k).atLimit = true := by
    rw [atLimit_runAt]
    rintro ⟨n, hn, hle⟩
    have hlt := hlimit n hn
    omega
  have hstep : (s.runAt clock limit k).system.step (clock (k + 1)) =
      (s.after clock (k + 1), (s.attempt clock k).fault) := rfl
  rw [Run.advance, hon, if_neg (by simp), if_neg hleft, hstep]
  cases (s.attempt clock k).fault <;> rfl

theorem advance_of_stopped (hrun : (s.after clock k).machine.running = false) (now : Nat) :
    (s.runAt clock limit k).advance now = .inr ⟨s.after clock k, .ok k⟩ := by
  have hoff : (s.runAt clock limit k).system.machine.running = false := hrun
  rw [Run.advance, hoff]
  rfl

/-- The system after a run that its limit ended. -/
def cutOff (s : System) (clock : Nat → Nat) (n : Nat) : System :=
  let t := s.after clock n
  { t with machine := t.machine.halt, log := t.log.push (.stopping n) }

theorem advance_of_atLimit {n : Nat} (hrun : (s.after clock n).machine.running = true)
    (now : Nat) :
    (s.runAt clock (some n) n).advance now = .inr ⟨s.cutOff clock n, .ok n⟩ := by
  have hon : (s.runAt clock (some n) n).system.machine.running = true := hrun
  have hlimit : (s.runAt clock (some n) n).atLimit = true := by
    rw [atLimit_runAt]
    exact ⟨n, rfl, Nat.le_refl n⟩
  rw [Run.advance, hon, if_neg (by simp), if_pos hlimit]
  rfl

theorem finish_runAt_succ (fuel : Nat) :
    (s.runAt clock limit k).finish clock (fuel + 1) =
      match (s.runAt clock limit k).advance (clock (k + 1)) with
      | .inl r => r.finish clock fuel
      | .inr done => some done := rfl

/-- A run goes through the steps that do not stop the machine, up to its limit. -/
theorem finish_runAt (hrun : s.machine.running = true) (h : s.GoesOn clock k)
    (hlimit : ∀ n, limit = some n → k ≤ n) (fuel : Nat) :
    (s.runAt clock limit 0).finish clock (k + fuel) =
      (s.runAt clock limit k).finish clock fuel := by
  induction k generalizing fuel with
  | zero => rw [Nat.zero_add]
  | succ k ih =>
    have hgo : s.GoesOn clock k := fun j hj => h j (by omega)
    have hlt : ∀ n, limit = some n → k < n := fun n hn => hlimit n hn
    have hnext : (s.runAt clock limit k).advance (clock (k + 1)) =
        .inl (s.runAt clock limit (k + 1)) := by
      rw [advance_runAt (running_after hrun hgo) hlt, (h k (by omega)).1]
    have hsum : k + 1 + fuel = k + (fuel + 1) := by omega
    rw [hsum, ih hgo (fun n hn => Nat.le_of_lt (hlt n hn)), finish_runAt_succ, hnext]

/-- `Ends s clock limit done`: a run from `s` ends as `done`. Without a limit it is followed as far
as cycles are counted. -/
inductive Ends (s : System) (clock : Nat → Nat) (limit : Option Nat) : Finished → Prop where
  | halted (i : Nat) : i < limit.getD cycleRange → s.GoesOn clock i →
    (s.attempt clock i).Executes .hlt → Ends s clock limit ⟨s.after clock (i + 1), .ok (i + 1)⟩
  | faulted (i : Nat) (f : Fault) : i < limit.getD cycleRange → s.GoesOn clock i →
    (s.attempt clock i).fault = some f → Ends s clock limit ⟨s.after clock (i + 1), .error f⟩
  | cutOff (n : Nat) : limit = some n → s.GoesOn clock n →
    Ends s clock limit ⟨s.cutOff clock n, .ok n⟩

theorem lt_of_lt_getD {i : Nat} (h : i < limit.getD cycleRange) :
    ∀ n, limit = some n → i < n := by
  rintro n rfl
  exact h

theorem run_eq_finish (limit : Option Nat) :
    s.run limit clock =
      ((s.started (clock 0)).runAt clock limit 0).finish clock (limit.getD cycleRange + 1) := rfl

/-- A run whose first `i` steps go on comes to the next one, with fuel enough for it and for finding
the machine stopped. -/
theorem exists_run_eq_finish {i : Nat} (hi : i < limit.getD cycleRange)
    (hgo : (s.started (clock 0)).GoesOn clock i) :
    ∃ rest, s.run limit clock =
      ((s.started (clock 0)).runAt clock limit i).finish clock (rest + 2) := by
  have hlt := lt_of_lt_getD hi
  have hfuel : limit.getD cycleRange + 1 = i + (limit.getD cycleRange - i - 1 + 2) := by omega
  refine ⟨limit.getD cycleRange - i - 1, ?_⟩
  rw [run_eq_finish, hfuel]
  exact finish_runAt rfl hgo (fun n hn => Nat.le_of_lt (hlt n hn)) _

/-- A run ends where a step stops the machine or its limit is reached. -/
theorem run_of_ends {done : Finished} (h : (s.started (clock 0)).Ends clock limit done) :
    s.run limit clock = some done := by
  have hrun : (s.started (clock 0)).machine.running = true := rfl
  cases h with
  | halted i hi hgo hhlt =>
    obtain ⟨rest, hrest⟩ := exists_run_eq_finish hi hgo
    have hoff : ((s.started (clock 0)).after clock (i + 1)).machine.running = false := by
      rw [machine_after_succ, hhlt.halted.2]
      rfl
    rw [hrest, finish_runAt_succ, advance_runAt (running_after hrun hgo) (lt_of_lt_getD hi),
      hhlt.halted.1]
    show ((s.started (clock 0)).runAt clock limit (i + 1)).finish clock (rest + 1) = _
    rw [finish_runAt_succ, advance_of_stopped hoff]
  | faulted i f hi hgo hf =>
    obtain ⟨rest, hrest⟩ := exists_run_eq_finish hi hgo
    rw [hrest, finish_runAt_succ, advance_runAt (running_after hrun hgo) (lt_of_lt_getD hi), hf]
  | cutOff n hn hgo =>
    subst hn
    have hle : ∀ k, some n = some k → n ≤ k := fun k hk => Nat.le_of_eq (Option.some.inj hk)
    rw [run_eq_finish, Option.getD_some, finish_runAt hrun hgo hle, finish_runAt_succ,
      advance_of_atLimit (running_after hrun hgo)]

theorem exists_ends (s : System) (clock : Nat → Nat) (n : Nat) :
    ∃ done, s.Ends clock (some n) done := by
  rcases goesOn_or_exists_first s clock n with hgo | ⟨i, hi, hgo, hstop⟩
  · exact ⟨_, .cutOff n rfl hgo⟩
  · cases hf : (s.attempt clock i).fault with
    | some f => exact ⟨_, .faulted i f hi hgo hf⟩
    | none =>
      have hhlt : (s.attempt clock i).Executes .hlt :=
        Decidable.byContradiction fun hne => hstop ⟨hf, hne⟩
      exact ⟨_, .halted i hi hgo hhlt⟩

theorem run_eq_some_iff {n : Nat} {done : Finished} :
    s.run (some n) clock = some done ↔ (s.started (clock 0)).Ends clock (some n) done := by
  constructor
  · intro h
    obtain ⟨done', hends⟩ := exists_ends (s.started (clock 0)) clock n
    obtain rfl : done = done' := Option.some.inj (h.symm.trans (run_of_ends hends))
    exact hends
  · exact run_of_ends

/-- A run without a limit that ends is stopped by one of its steps. -/
theorem not_goesOn_of_run_none {done : Finished} (h : s.run none clock = some done) :
    ¬(s.started (clock 0)).GoesOn clock (cycleRange + 1) := by
  intro hgo
  have hnever : ∀ n, (none : Option Nat) = some n → cycleRange + 1 ≤ n := by
    intro n hn
    cases hn
  have hnone : s.run none clock = none := by
    rw [run_eq_finish]
    exact finish_runAt rfl hgo hnever 0
  cases hnone.symm.trans h

theorem finish_limited {n fuel fuel' : Nat} {done : Finished} (hn : k + fuel ≤ n)
    (hfuel : fuel ≤ fuel') (h : (s.runAt clock none k).finish clock fuel = some done) :
    (s.runAt clock (some n) k).finish clock fuel' = some done := by
  induction fuel generalizing k fuel' with
  | zero => cases h
  | succ fuel ih =>
    obtain ⟨fuel', rfl⟩ : ∃ more, fuel' = more + 1 := ⟨fuel' - 1, by omega⟩
    rw [finish_runAt_succ] at h ⊢
    cases hrun : (s.after clock k).machine.running with
    | false =>
      rw [advance_of_stopped hrun] at h ⊢
      exact h
    | true =>
      have hbelow : ∀ l, some n = some l → k < l := by
        rintro l ⟨rfl⟩
        omega
      have hnever : ∀ l, (none : Option Nat) = some l → k < l := by
        intro l hl
        cases hl
      rw [advance_runAt hrun hnever] at h
      rw [advance_runAt hrun hbelow]
      cases hf : (s.attempt clock k).fault with
      | none =>
        rw [hf] at h
        exact ih (by omega) (by omega) h
      | some f =>
        rw [hf] at h
        exact h

/-- A run that ends is one with a limit, or goes no further with a limit that no run reaches. -/
theorem exists_ends_of_run {done : Finished} (h : s.run limit clock = some done) :
    ∃ n, (s.started (clock 0)).Ends clock (some n) done ∧
      (limit = some n ∨ ¬(s.started (clock 0)).GoesOn clock n) := by
  cases limit with
  | some n => exact ⟨n, run_eq_some_iff.1 h, .inl rfl⟩
  | none =>
    have hlimited : s.run (some (cycleRange + 1)) clock = some done := by
      rw [run_eq_finish, Option.getD_none] at h
      rw [run_eq_finish, Option.getD_some]
      exact finish_limited (by omega) (by omega) h
    exact ⟨cycleRange + 1, run_eq_some_iff.1 hlimited, .inr (not_goesOn_of_run_none h)⟩

theorem Ends.running {done : Finished} (h : s.Ends clock limit done) :
    done.system.machine.running = false := by
  cases h with
  | halted i _ _ hhlt =>
    show (s.attempt clock i).after.running = false
    rw [hhlt.halted.2]
    rfl
  | faulted i f _ _ hf => exact Attempt.running_of_fault hf
  | cutOff n _ _ => rfl

theorem Ends.period {done : Finished} (h : s.Ends clock limit done) :
    done.system.timer.period = s.timer.period := by
  cases h with
  | halted => exact period_after
  | faulted => exact period_after
  | cutOff => exact period_after

/-- A run from `s` that ended as `done` took `k` steps. -/
structure Took (s : System) (clock : Nat → Nat) (done : Finished) (k : Nat) : Prop where
  goesOn : s.GoesOn clock (k - 1)
  machine : done.system.machine = (s.after clock k).machine.halt
  ok : ∀ n, done.result = .ok n → k = n
  error : ∀ f, done.result = .error f → ∃ i, k = i + 1 ∧ (s.attempt clock i).fault = some f

theorem Ends.exists_took {done : Finished} (h : s.Ends clock limit done) :
    ∃ k, s.Took clock done k := by
  have hrunning := h.running
  cases h with
  | halted i _ hgo _ =>
    exact ⟨i + 1, hgo, (Machine.halt_of_not_running hrunning).symm, fun n hn => Except.ok.inj hn,
      nofun⟩
  | faulted i f _ hgo hf =>
    refine ⟨i + 1, hgo, (Machine.halt_of_not_running hrunning).symm, nofun, ?_⟩
    rintro _ ⟨rfl⟩
    exact ⟨i, rfl, hf⟩
  | cutOff n _ hgo =>
    exact ⟨n, fun j hj => hgo j (by omega), rfl, fun m hm => Except.ok.inj hm, nofun⟩

theorem exists_took_of_run {done : Finished} (h : s.run limit clock = some done) :
    ∃ k, (s.started (clock 0)).Took clock done k := by
  obtain ⟨n, hends, -⟩ := exists_ends_of_run h
  exact hends.exists_took

end System

end ByteMachine
