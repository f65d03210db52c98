import ByteMachine.Proofs.Steady
import Mathlib.Data.List.Basic

/-! When a timer ticks. A timer that has a period ticks no more than once in each, whenever it is
asked and also if the clock goes backwards; one that has none ticks whenever it is asked. -/

namespace ByteMachine

namespace Timer

/-- The timer after it was asked at these instants, one after another. -/
def pollAll (t : Timer) (instants : List Nat) : Timer :=
  instants.foldl (fun t now => (t.poll now).2) t

/-- Those of the instants at which the timer ticks. -/
def ticks (t : Timer) (instants : List Nat) : List Nat :=
  ((instants.zip (t.answers instants)).filter Prod.snd).map Prod.fst

variable {t : Timer} {now : Nat}

theorem poll_of_le (h : t.period ≤ now - t.last) : t.poll now = (true, t.reset now) := if_pos h

theorem poll_of_lt (h : now - t.last < t.period) : t.poll now = (false, t) :=
  if_neg (Nat.not_le.2 h)

@[simp] theorem length_answers (t : Timer) (instants : List Nat) :
    (t.answers instants).length = instants.length := by
  induction instants generalizing t with
  | nil => rfl
  | cons now later ih => rw [answers, List.length_cons, List.length_cons, ih]

theorem answers_append (t : Timer) (before later : List Nat) :
    t.answers (before ++ later) = t.answers before ++ (t.pollAll before).answers later := by
  induction before generalizing t with
  | nil => rfl
  | cons now before ih => exact congrArg _ (ih (t.poll now).2)

@[simp] theorem period_pollAll (t : Timer) (instants : List Nat) :
    (t.pollAll instants).period = t.period := by
  induction instants generalizing t with
  | nil => rfl
  | cons now later ih => exact (ih _).trans (t.period_poll now)

theorem ticks_cons_of_le (later : List Nat) (h : t.period ≤ now - t.last) :
    t.ticks (now :: later) = now :: (t.reset now).ticks later := by
  simp [ticks, answers, poll_of_le h]

theorem ticks_cons_of_lt (later : List Nat) (h : now - t.last < t.period) :
    t.ticks (now :: later) = t.ticks later := by
  simp [ticks, answers, poll_of_lt h]

theorem mem_of_mem_ticks {tick : Nat} {instants : List Nat} (h : tick ∈ t.ticks instants) :
    tick ∈ instants := by
  obtain ⟨⟨now, answer⟩, hasked, rfl⟩ := List.mem_map.1 h
  exact (List.of_mem_zip (List.mem_of_mem_filter hasked)).1

/-- The period under way began at the last tick. -/
theorem last_pollAll (t : Timer) (instants : List Nat) :
    (t.pollAll instants).last = (t.ticks instants).getLastD t.last := by
  induction instants generalizing t with
  | nil => rfl
  | cons now later ih =>
    have hafter : t.pollAll (now :: later) = (t.poll now).2.pollAll later := rfl
    rcases Nat.lt_or_ge (now - t.last) t.period with hlt | hle
    · rw [hafter, poll_of_lt hlt, ticks_cons_of_lt later hlt, ih]
    · rw [hafter, poll_of_le hle, ticks_cons_of_le later hle, ih, List.getLastD_cons]
      rfl

theorem getElem?_answers (t : Timer) (before later : List Nat) (now : Nat) :
    (t.answers (before ++ now :: later))[before.length]? =
      some (decide (t.period ≤ now - (t.pollAll before).last)) := by
  rw [answers_append, List.getElem?_append_right (by simp), length_answers, Nat.sub_self, answers,
    List.getElem?_cons_zero, poll_fst, period_pollAll]

/-- A full period lies between any two ticks, and between the start and any tick. -/
theorem pairwise_ticks (h : 0 < t.period) (instants : List Nat) :
    (t.last :: t.ticks instants).Pairwise fun a b => a + t.period ≤ b := by
  induction instants generalizing t with
  | nil => exact List.pairwise_singleton _ _
  | cons now later ih =>
    rcases Nat.lt_or_ge (now - t.last) t.period with hlt | hle
    · rw [ticks_cons_of_lt later hlt]
      exact ih h
    · have hlater : (now :: (t.reset now).ticks later).Pairwise fun a b => a + t.period ≤ b :=
        ih (t := t.reset now) h
      rw [ticks_cons_of_le later hle, List.pairwise_cons]
      refine ⟨?_, hlater⟩
      rw [List.forall_mem_cons]
      refine ⟨by omega, ?_⟩
      intro tick htick
      have hgap := (List.pairwise_cons.1 hlater).1 tick htick
      omega

/-- The tick with the number `i`, counted from zero, has `i + 1` periods before it. -/
theorem le_of_getElem?_ticks (h : 0 < t.period) {instants : List Nat} {i tick : Nat}
    (hi : (t.ticks instants)[i]? = some tick) : t.last + (i + 1) * t.period ≤ tick := by
  induction instants generalizing t i with
  | nil => cases hi
  | cons now later ih =>
    rcases Nat.lt_or_ge (now - t.last) t.period with hlt | hle
    · rw [ticks_cons_of_lt later hlt] at hi
      exact ih h hi
    · rw [ticks_cons_of_le later hle] at hi
      cases i with
      | zero =>
        obtain rfl : now = tick := Option.some.inj hi
        omega
      | succ i =>
        have hrest : now + (i + 1) * t.period ≤ tick := ih (t := t.reset now) h hi
        rw [Nat.succ_mul (i + 1)]
        omega

theorem length_ticks_le (h : 0 < t.period) {instants : List Nat} {latest : Nat}
    (hlatest : ∀ now ∈ instants, now ≤ latest) :
    (t.ticks instants).length ≤ (latest - t.last) / t.period := by
  rw [Nat.le_div_iff_mul_le h]
  cases hlength : (t.ticks instants).length with
  | zero => simp
  | succ n =>
    have hn : n < (t.ticks instants).length := by omega
    have htick : (t.ticks instants)[n]? = some (t.ticks instants)[n] :=
      List.getElem?_eq_getElem hn
    have hlast := le_of_getElem?_ticks h htick
    have hasked := hlatest _ (mem_of_mem_ticks (List.mem_of_getElem? htick))
    omega

/-- A timer that is asked no later than its last tick neither ticks nor changes. -/
theorem answers_of_early (h : 0 < t.period) (before later : List Nat) {now : Nat}
    (hnow : now ≤ (t.pollAll before).last) :
    t.answers (before ++ now :: later) =
      t.answers before ++ false :: (t.pollAll before).answers later := by
  have hpoll : (t.pollAll before).poll now = (false, t.pollAll before) := by
    apply poll_of_lt
    rw [period_pollAll]
    omega
  rw [answers_append, answers, hpoll]

/-- Once it was reset, a timer ticks whenever it is asked a full period after its last tick or, before
the first one, after the reset. If it has a period, the ticks keep that distance, so that no more of
them come than periods have gone by, and to ask it no later than its last tick is as good as not to
ask it. If it has none, it always ticks. Another reset makes it forget all ticks. -/
theorem ticks_spaced (t : Timer) (start : Nat) (instants : List Nat) :
    (∀ (before : List Nat) (now : Nat) (later : List Nat), instants = before ++ now :: later →
      ((t.reset start).answers instants)[before.length]? =
        some (decide ((t.period : Int) ≤
          max 0 ((now : Int) - ((t.reset start).ticks before).getLastD start)))) ∧
    (0 < t.period →
      ((start :: (t.reset start).ticks instants).Pairwise fun a b => a < b ∧ a + t.period ≤ b) ∧
      (∀ i tick, ((t.reset start).ticks instants)[i]? = some tick →
        start + (i + 1) * t.period ≤ tick) ∧
      (∀ latest, (∀ now ∈ instants, now ≤ latest) →
        ((t.reset start).ticks instants).length ≤ (latest - start) / t.period) ∧
      ∀ (before : List Nat) (now : Nat) (later : List Nat), instants = before ++ now :: later →
        now ≤ ((t.reset start).ticks before).getLastD start →
          ((t.reset start).answers instants)[before.length]? = some false ∧
            ((t.reset start).answers instants).eraseIdx before.length =
              (t.reset start).answers (before ++ later)) ∧
    (t.period = 0 → ∀ answer ∈ (t.reset start).answers instants, answer = true) ∧
    ∀ made again later, (((t.reset start).pollAll instants).reset again).answers later =
      ((⟨t.period, made⟩ : Timer).reset again).answers later := by
  refine ⟨?_, ?_, fun h => answers_of_period_zero (t := t.reset start) h instants, ?_⟩
  · rintro before now later rfl
    have hlast : ((t.reset start).pollAll before).last = _ := last_pollAll _ before
    rw [getElem?_answers, hlast, Option.some.injEq, decide_eq_decide]
    show t.period ≤ now - ((t.reset start).ticks before).getLastD start ↔ _
    omega
  · intro h
    refine ⟨?_, fun i tick hi => le_of_getElem?_ticks (t := t.reset start) h hi,
      fun latest hlatest => length_ticks_le (t := t.reset start) h hlatest, ?_⟩
    · have hgaps : (start :: (t.reset start).ticks instants).Pairwise fun a b => a + t.period ≤ b :=
        pairwise_ticks (t := t.reset start) h instants
      exact hgaps.imp fun hgap => ⟨by omega, hgap⟩
    · rintro before now later rfl hnow
      have hlast : ((t.reset start).pollAll before).last = _ := last_pollAll _ before
      have hearly : now ≤ ((t.reset start).pollAll before).last := by rwa [hlast]
      have hanswers := answers_of_early (t := t.reset start) h before later hearly
      have hlength : ((t.reset start).answers before).length = before.length := length_answers _ _
      rw [hanswers, ← hlength]
      constructor
      · simp
      · rw [List.eraseIdx_append_of_length_le (Nat.le_refl _), Nat.sub_self, List.eraseIdx_cons_zero,
          answers_append]
  · intro made again later
    have hreset : ((t.reset start).pollAll instants).reset again = ⟨t.period, again⟩ := by
      rw [reset, period_pollAll]
      rfl
    rw [hreset]
    rfl

/-- A period of 10 from the instant 2 on. The third and the last of these instants come before the
last tick. -/
theorem ticks_spaced_backwards :
    let t : Timer := ⟨10, 0⟩
    0 < t.period ∧ (t.reset 2).ticks [7, 12, 3, 14, 25, 2] = [12, 25] ∧
      (t.reset 2).answers [7, 12, 3, 14, 25, 2] = [false, true, false, false, true, false] ∧
      [2, 12, 25].Pairwise (fun a b => a < b ∧ a + 10 ≤ b) ∧ 2 + 2 * 10 ≤ 25 ∧
      (t.reset 2).answers [7, 12, 14, 25, 2] = [false, true, false, true, false] ∧
      2 ≤ (25 - 2) / 10 := by
  intro t
  have h : 0 < t.period := by decide
  have hticks : (t.reset 2).ticks [7, 12, 3, 14, 25, 2] = [12, 25] := by decide
  have hanswers : (t.reset 2).answers [7, 12, 3, 14, 25, 2] =
      [false, true, false, false, true, false] := by decide
  obtain ⟨hgaps, hbelow, hnumber, hearly⟩ := (ticks_spaced t 2 [7, 12, 3, 14, 25, 2]).2.1 h
  rw [hticks] at hgaps hbelow hnumber
  obtain ⟨-, hwithout⟩ := hearly [7, 12] 3 [14, 25, 2] rfl (by decide)
  rw [hanswers] at hwithout
  exact ⟨h, hticks, hanswers, hgaps, hbelow 1 25 rfl, hwithout.symm, hnumber 25 (by decide)⟩

end Timer

end ByteMachine
