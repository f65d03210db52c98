import ByteMachine.Proofs.Advance
import ByteMachine.Proofs.Ending
import ByteMachine.Proofs.Printing

/-! Straight code ends. While nothing transfers control, every cycle that goes through moves the
program counter upwards, also where the program changes itself, and past the end of memory none goes
through. -/

namespace ByteMachine

namespace Attempt

variable {a : Attempt} {i : Instruction}

/-- The step starts to dispatch an interrupt or to execute an instruction that transfers control. -/
def Leaves (a : Attempt) : Prop :=
  (∃ n, a.Dispatches n) ∨ ∃ i, a.Executes i ∧ i.transfers = true

instance (a : Attempt) : Decidable a.Leaves :=
  decidable_of_iff ((∃ n, a.Dispatches n) ∨ ∃ i ∈ a.instruction?, i.transfers = true) (by
    simp only [Leaves, Option.mem_def, instruction?_eq_some_iff])

/-- A step that goes through and does not leave straight code begins inside memory and ends
further up. -/
theorem lt_pc_of_not_leaves (hf : a.fault = none) (h : ¬a.Leaves) :
    a.before.pc < Memory.size ∧ a.before.pc < a.after.pc := by
  cases a.course with
  | dispatch n hn => exact absurd (.inl ⟨n, hn⟩) h
  | unread f _ _ hsome _ => cases hf.symm.trans hsome
  | executed i he _ heffect =>
    have hi : i.transfers = false := by
      rw [← Bool.not_eq_true]
      exact fun ht => h (.inr ⟨i, he, ht⟩)
    have hin : a.before.pc + i.fetched ≤ Memory.size := by
      rw [← pc_polled]
      exact (Machine.encodes_of_fetch he.2).inside
    have hfetched := Machine.fetched_pos i
    have hlength : i.length = 1 + Opcode.operandCount i.operation.opcode := rfl
    rw [heffect.pc_of_not_transfers hi, pc_polled]
    omega
  | refused i f m _ hsome _ _ => cases hf.symm.trans hsome

/-- An instruction without an effect only moves the counter to the next byte. -/
theorem Executes.after_of_nop (h : a.Executes .nop) :
    a.fault = none ∧ a.after = a.polled.goto (a.polled.pc + 1) := by
  rcases h.effect_or_refusal with ⟨hf, heffect⟩ | ⟨f, m, -, hrefused, -⟩
  · refine ⟨hf, ?_⟩
    generalize a.after = m at heffect
    cases heffect
    rfl
  · cases hrefused

end Attempt

/-- So many steps in a row fit between the counter and the end of memory. -/
theorem Machine.length_le_of_straight {m : Machine} {ticks : List Bool}
    (h : ∀ a ∈ m.attempts ticks, a.fault = none ∧ ¬a.Leaves) :
    ticks.length ≤ 256 - m.pc := by
  induction ticks generalizing m with
  | nil => exact Nat.zero_le _
  | cons tick ticks ih =>
    rw [attempts, List.forall_mem_cons] at h
    obtain ⟨hlt, hup⟩ := Attempt.lt_pc_of_not_leaves h.1.1 h.1.2
    have hrest : ticks.length ≤ 256 - (m.step tick).machine.pc := ih h.2
    have hin : m.pc < 256 := hlt
    have hpc : m.pc < (m.step tick).machine.pc := hup
    rw [List.length_cons]
    omega

namespace System

variable {s : System} {clock : Nat → Nat}

theorem le_of_straight {j k : Nat} (h : ∀ i, j ≤ i → i < j + k →
      (s.attempt clock i).fault = none ∧ ¬(s.attempt clock i).Leaves) :
    k ≤ 256 - (s.after clock j).machine.pc := by
  have hsteps : ∀ a ∈ (s.after clock j).machine.attempts
      ((List.range' j k).map fun i => (s.attempt clock i).tick), a.fault = none ∧ ¬a.Leaves := by
    rw [attempts_range', List.forall_mem_map]
    intro i hi
    rw [List.mem_range'_1] at hi
    exact h i hi.1 hi.2
  have hlength := Machine.length_le_of_straight hsteps
  rwa [List.length_map, List.length_range'] at hlength

/-- The step with this number is the last one of a run without a limit, which it ends by a halt or a
fault. -/
def StopsAt (s : System) (clock : Nat → Nat) (i : Nat) : Prop :=
  let s₀ := s.started (clock 0)
  s₀.GoesOn clock i ∧
    ((s₀.attempt clock i).Executes .hlt ∧
        s.run none clock = some ⟨s₀.after clock (i + 1), .ok (i + 1)⟩ ∨
      ∃ f, (s₀.attempt clock i).fault = some f ∧
        s.run none clock = some ⟨s₀.after clock (i + 1), .error f⟩)

theorem stopsAt_of_not_goesOn {i : Nat} (hi : i < cycleRange)
    (hgo : (s.started (clock 0)).GoesOn clock i)
    (hstop : ¬((s.started (clock 0)).attempt clock i).GoesOn) : s.StopsAt clock i := by
  refine ⟨hgo, ?_⟩
  cases hf : ((s.started (clock 0)).attempt clock i).fault with
  | some f => exact .inr ⟨f, rfl, run_of_ends (.faulted i f hi hgo hf)⟩
  | none =>
    have hhlt : ((s.started (clock 0)).attempt clock i).Executes .hlt :=
      Decidable.byContradiction fun hne => hstop ⟨hf, hne⟩
    exact .inl ⟨hhlt, run_of_ends (.halted i hi hgo hhlt)⟩

theorem exists_stopsAt_of_straight
    (h : ∀ i, (s.started (clock 0)).GoesOn clock i →
      ¬((s.started (clock 0)).attempt clock i).Leaves) :
    ∃ i < max 1 (257 - s.machine.pc), s.StopsAt clock i := by
  rcases goesOn_or_exists_first (s.started (clock 0)) clock (256 - s.machine.pc + 1) with
    hgo | ⟨i, hi, hgo, hstop⟩
  · -- More steps go on than there is room for.
    have hsteps : ∀ i, 0 ≤ i → i < 0 + (256 - s.machine.pc + 1) →
        ((s.started (clock 0)).attempt clock i).fault = none ∧
          ¬((s.started (clock 0)).attempt clock i).Leaves := by
      intro i _ hi
      rw [Nat.zero_add] at hi
      exact ⟨(hgo i hi).1, h i fun j hj => hgo j (Nat.lt_trans hj hi)⟩
    have hroom : 256 - s.machine.pc + 1 ≤ 256 - s.machine.pc := le_of_straight hsteps
    omega
  · have hrange : i < cycleRange := by
      have hsize : cycleRange = 18446744073709551616 := rfl
      omega
    exact ⟨i, by omega, stopsAt_of_not_goesOn hrange hgo hstop⟩

end System

/-- Cycles in a row that go through and stay in straight code each move the counter up, so that there
are no more of them than bytes from the counter to the end of memory. A run of nothing else ends
with the cycle after them at the latest, and where 257 cycles in a row go through, one of them leaves
straight code. -/
theorem straight_code_ends :
    (∀ (m : Machine) (ticks : List Bool),
      (∀ a ∈ m.attempts ticks, a.fault = none ∧ ¬a.Leaves) →
      ticks.length ≤ 256 - m.pc ∧ ∀ a ∈ m.attempts ticks, a.before.pc < a.after.pc) ∧
    ∀ (s : System) (clock : Nat → Nat),
      ((∀ i, (s.started (clock 0)).GoesOn clock i →
          ¬((s.started (clock 0)).attempt clock i).Leaves) →
        ∃ i < max 1 (257 - s.machine.pc), s.StopsAt clock i) ∧
      ∀ j, (∀ i, j ≤ i → i < j + 257 → (s.attempt clock i).fault = none) →
        ∃ i, j ≤ i ∧ i < j + 257 ∧ (s.attempt clock i).Leaves := by
  refine ⟨?_, ?_⟩
  · intro m ticks h
    exact ⟨Machine.length_le_of_straight h,
      fun a ha => (Attempt.lt_pc_of_not_leaves (h a ha).1 (h a ha).2).2⟩
  · intro s clock
    refine ⟨System.exists_stopsAt_of_straight, ?_⟩
    intro j hthrough
    refine Classical.byContradiction fun hnone => ?_
    have hroom : 257 ≤ 256 - (s.after clock j).machine.pc :=
      System.le_of_straight fun i hj hi =>
        ⟨hthrough i hj hi, fun hleaves => hnone ⟨i, hj, hi, hleaves⟩⟩
    omega

/-- Jumps to its own beginning with nine bytes left below the stack pointer, so that a dispatch
covers it with zeros. -/
def wiping : System where
  machine := (Machine.fresh .unbounded).patch
    [(0, 0x82), (1, 5), (2, 1), (3, 0x82), (4, 7), (5, 9), (6, 0x54)]
  timer := ⟨1, 0⟩
  log := #[]

/-- Lets the timer tick in the third cycle and in no other. -/
def tickingThird (k : Nat) : Nat := if k < 3 then 0 else 1

/-- What the dispatch leaves: zeros everywhere, and the mask put aside. -/
def wiped : Machine where
  regs := ⟨.replicate 8 0, 0, 0⟩
  memory := .zero
  savedMask := some 1
  running := true
  sink := .unbounded

theorem executes_wiped {k : Nat} (hk : k < 256) :
    Attempt.Executes ⟨wiped.goto k, false⟩ .nop := by
  have hcode : (wiped.goto k).code 0 = 0 := Memory.load_zero _
  have hnop : Operation.decode ((wiped.goto k).code 0) = some (.control .nop) := by
    rw [hcode]
    decide
  exact ⟨rfl, Machine.fetch_of_decode (m := wiped.goto k) hk hnop⟩

/-- From there on the program counter moves up by one in each cycle. -/
theorem after_wiping {k : Nat} (hk : k ≤ 256) :
    ((wiping.started 0).after tickingThird (4 + k)).machine = wiped.goto k ∧
      ((wiping.started 0).after tickingThird (4 + k)).timer = ⟨1, 1⟩ := by
  induction k with
  | zero => exact ⟨rfl, rfl⟩
  | succ k ih =>
    obtain ⟨hmachine, htimer⟩ := ih (Nat.le_of_succ_le hk)
    have hnow : tickingThird (4 + k + 1) = 1 := if_neg (by omega)
    have htick : ((wiping.started 0).after tickingThird (4 + k)).tick 1 = (false, ⟨1, 1⟩) := by
      rw [System.tick, hmachine, htimer]
      rfl
    rw [← Nat.add_assoc, System.after, hnow, System.step, htick, hmachine]
    exact ⟨(executes_wiped (Nat.lt_of_succ_le hk)).after_of_nop.2, rfl⟩

theorem attempt_wiping {k : Nat} (hk : k ≤ 256) :
    (wiping.started 0).attempt tickingThird (4 + k) = ⟨wiped.goto k, false⟩ := by
  obtain ⟨hmachine, htimer⟩ := after_wiping hk
  have hnow : tickingThird (4 + k + 1) = 1 := if_neg (by omega)
  rw [System.attempt, System.tick, hmachine, htimer, hnow]
  rfl

theorem stopsAt_wiping : wiping.StopsAt tickingThird 260 := by
  apply System.stopsAt_of_not_goesOn (by decide)
  · intro i hi
    rcases Nat.lt_or_ge i 4 with hfirst | hfrom
    · have hgo : ∀ i < 4, ((wiping.started 0).attempt tickingThird i).GoesOn := by decide +kernel
      exact hgo i hfirst
    · obtain ⟨k, rfl⟩ := Nat.exists_eq_add_of_le hfrom
      have hnop := executes_wiped (k := k) (by omega)
      show ((wiping.started 0).attempt tickingThird (4 + k)).GoesOn
      rw [attempt_wiping (by omega)]
      exact ⟨hnop.after_of_nop.1, fun hhlt => nomatch hnop.inj hhlt⟩
  · show ¬((wiping.started 0).attempt tickingThird (4 + 256)).GoesOn
    rw [attempt_wiping (Nat.le_refl _)]
    decide +kernel

/-- A run may end with 257 cycles in a row in straight code, of which all but the last, which meets a
fault, go through. -/
theorem not_leaves_in_every_window :
    ¬∀ (s : System) (clock : Nat → Nat) (last : Nat), s.StopsAt clock last →
      max 1 (257 - s.machine.pc) < last + 1 → ∀ j, j + 257 ≤ last + 1 →
        ∃ i, j ≤ i ∧ i < j + 257 ∧ ((s.started (clock 0)).attempt clock i).Leaves := by
  intro hall
  obtain ⟨i, hfrom, hto, hleaves⟩ := hall wiping tickingThird 260 stopsAt_wiping (by decide) 4
    (by decide)
  obtain ⟨k, rfl⟩ := Nat.exists_eq_add_of_le hfrom
  have hk : k ≤ 256 := by omega
  have hattempt : Attempt.Leaves ⟨wiped.goto k, false⟩ := attempt_wiping hk ▸ hleaves
  rcases hattempt with ⟨n, hn⟩ | ⟨i, hi, htransfers⟩
  · cases hn
  · rcases Nat.lt_or_eq_of_le hk with hlt | rfl
    · obtain rfl : .nop = i := (executes_wiped hlt).inj hi
      cases htransfers
    · have hend : (wiped.goto 256).fetch = .error (.outOfBounds 256) := rfl
      cases hend.symm.trans hi.2

/-- Stores a halt behind the jump at 11, which is not taken. The interrupt that it requests before is
masked out, and the timer ticks whenever it is asked. -/
def selfHalting : System where
  machine := (Machine.fresh .unbounded).patch
    [(0, 0x82), (2, 13), (3, 0x82), (4, 1), (5, 1), (6, 0x84), (8, 1), (9, 0x52), (10, 2),
      (11, 0x55)]
  timer := ⟨0, 0⟩
  log := #[]

/-- Jumps to itself, under a timer that never ticks while the clock stands still. -/
def circling : System where
  machine := (Machine.fresh .unbounded).patch [(0, 0x54)]
  timer := ⟨1, 0⟩
  log := #[]

theorem circling_after (k : Nat) :
    (circling.after (fun _ => 0) k).machine = circling.machine ∧
      (circling.after (fun _ => 0) k).timer = circling.timer := by
  have hround : (circling.step 0).1.machine = circling.machine ∧
      (circling.step 0).1.timer = circling.timer := ⟨rfl, rfl⟩
  induction k with
  | zero => exact ⟨rfl, rfl⟩
  | succ k ih =>
    have hstep : ((circling.after (fun _ => 0) k).step 0).1.machine =
          (circling.step 0).1.machine ∧
        ((circling.after (fun _ => 0) k).step 0).1.timer = (circling.step 0).1.timer := by
      simp only [System.step, System.tick, System.absorb, ih.1, ih.2, and_self]
    exact ⟨hstep.1.trans hround.1, hstep.2.trans hround.2⟩

theorem straight_code_ends_selfHalting :
    (∃ i < 257, selfHalting.StopsAt id i ∧ (selfHalting.machine.stepAll [true, true, true]).pc = 9) ∧
      [true, true, true].length ≤ 256 - selfHalting.machine.pc ∧
      ∃ i, 1000 ≤ i ∧ i < 1257 ∧ (circling.attempt (fun _ => 0) i).Leaves := by
  obtain ⟨hsteps, hruns⟩ := straight_code_ends
  have hstraight : ∀ a ∈ selfHalting.machine.attempts [true, true, true],
      a.fault = none ∧ ¬a.Leaves := by decide +kernel
  have hhlt : ((selfHalting.started (id 0)).attempt id 5).Executes .hlt := by decide +kernel
  have hbefore : ∀ i < 6, ¬((selfHalting.started (id 0)).attempt id i).Leaves := by
    decide +kernel
  have hrun : ∀ i, (selfHalting.started (id 0)).GoesOn id i →
      ¬((selfHalting.started (id 0)).attempt id i).Leaves := by
    intro i hgo
    rcases Nat.lt_or_ge i 6 with hi | hi
    · exact hbefore i hi
    · exact absurd hhlt (hgo 5 hi).2
  have hthrough : ∀ i, 1000 ≤ i → i < 1000 + 257 →
      (circling.attempt (fun _ => 0) i).fault = none := by
    intro i _ _
    have hafter := circling_after i
    have hnone : (circling.attempt (fun _ => 0) 0).fault = none := by decide +kernel
    rw [← hnone]
    simp only [System.attempt, System.tick, hafter.1, hafter.2]
    rfl
  obtain ⟨i, hi, hstops⟩ := (hruns selfHalting id).1 hrun
  exact ⟨⟨i, hi, hstops, by decide +kernel⟩, (hsteps _ _ hstraight).1,
    (hruns circling fun _ => 0).2 1000 hthrough⟩

end ByteMachine
