import ByteMachine.Proofs.Ending
import ByteMachine.Proofs.Printing

/-! A run with an endless sink beside the same run with room for so many bytes only. They cannot be
told apart while the output fits; the first print that does not fit is refused, and the sink is left
with as much of the output as it has room for. -/

namespace ByteMachine

namespace Sink

/-- The sink with room for `n` bytes in all. -/
def capped (s : Sink) (n : Nat) : Sink := { s with capacity := some n }

theorem write_capped {s : Sink} {n : Nat} (h : s.written.size ≤ n) (bs : List Byte) :
    (s.capped n).write bs =
      if s.written.size + bs.length ≤ n then ((s.extend bs).capped n, none)
      else ((s.extend (bs.take (n - s.written.size))).capped n, some .full) := by
  induction bs generalizing s with
  | nil => simp [write, h, extend]
  | cons b bs ih =>
    have hfull : (s.capped n).isFull = decide (n ≤ s.written.size) := rfl
    rw [write, hfull]
    by_cases hlast : n ≤ s.written.size
    · have hnone : n - s.written.size = 0 := by omega
      have hover : ¬s.written.size + (bs.length + 1) ≤ n := by omega
      simp [hlast, hnone, hover, extend]
    · obtain ⟨k, hk⟩ : ∃ k, n - s.written.size = k + 1 := ⟨n - s.written.size - 1, by omega⟩
      have hpush : ({ s with written := s.written.push b } : Sink).written.size ≤ n := by
        rw [Array.size_push]
        omega
      have hk' : n - (s.written.size + 1) = k := by omega
      have hsum : s.written.size + 1 + bs.length = s.written.size + (bs.length + 1) := by omega
      have hrest := ih hpush
      simp only [Array.size_push, hk', hsum] at hrest
      rw [decide_eq_false hlast, if_neg Bool.false_ne_true, List.length_cons, hk, List.take_succ_cons]
      show (({ s with written := s.written.push b } : Sink).capped n).write bs = _
      rw [hrest]
      simp [extend]

end Sink

namespace Machine

def capped (m : Machine) (n : Nat) : Machine := m.withSink (m.sink.capped n)

end Machine

def Outcome.capped (o : Outcome) (n : Nat) : Outcome := o.withSink (o.machine.sink.capped n)

namespace Attempt

variable {a : Attempt} {n : Nat}

theorem size_after (h : a.before.sink.Endless) :
    a.after.sink.written.size = a.before.sink.written.size + a.printed.length := by
  rw [sink_after h, ← Array.length_toList, ← Array.length_toList]
  simp [Sink.accept, Sink.extend]

/-- A step with room for `n` bytes is that with an endless sink if all its bytes fit, and is refused
with nothing but the sink changed if they do not. -/
theorem step_capped (h : a.before.sink.Endless) (hroom : a.before.sink.written.size ≤ n) :
    (a.before.capped n).step a.tick =
      if a.before.sink.written.size + a.printed.length ≤ n then
        (a.before.step a.tick).capped n
      else
        ⟨(a.polled.withSink ((a.before.sink.extend
            (a.printed.take (n - a.before.sink.written.size))).capped n)).halt,
          some (.output .full), [.trace a.polled.trace]⟩ := by
  by_cases hp : a.Prints
  · have hcapped : (a.before.sink.capped n).flushable = true := h.flushable
    rw [Machine.capped, step_withSink_of_prints hp hcapped, Sink.write_capped hroom,
      step_of_prints h hp]
    by_cases hfits : a.before.sink.written.size + a.printed.length ≤ n
    · rw [if_pos hfits, if_pos hfits]
      rfl
    · rw [if_neg hfits, if_neg hfits]
  · have hprinted : a.printed.length = 0 := by
      rw [(printed_of_not_prints hp).1, List.length_nil]
    have hsink : (a.before.step a.tick).machine.sink = a.before.sink := sink_of_not_prints hp
    rw [if_pos (by omega), Machine.capped, step_withSink_of_not_prints hp, Outcome.capped, hsink]

def capped (a : Attempt) (n : Nat) : Attempt := ⟨a.before.capped n, a.tick⟩

/-- Bytes that do not fit are those of a printing instruction. -/
theorem prints_of_printed_ne_nil (h : a.printed ≠ []) : a.Prints :=
  Classical.byContradiction fun hp => h (printed_of_not_prints hp).1

end Attempt

namespace System

variable {s : System} {clock : Nat → Nat} {limit : Option Nat} {n k : Nat}

def capped (s : System) (n : Nat) : System := { s with machine := s.machine.capped n }

/-- What was put out before the step that comes after these `k`. -/
def output (s : System) (clock : Nat → Nat) (k : Nat) : List Byte :=
  (s.after clock k).machine.sink.written.toList

theorem endless_after (h : s.machine.sink.Endless) : (s.after clock k).machine.sink.Endless := by
  induction k with
  | zero => exact h
  | succ k ih => exact Attempt.endless_after (a := s.attempt clock k) ih

theorem output_succ (h : s.machine.sink.Endless) :
    s.output clock (k + 1) = s.output clock k ++ (s.attempt clock k).printed := by
  have hsink := Attempt.sink_after (a := s.attempt clock k) (endless_after h)
  rw [output, machine_after_succ, hsink]
  simp [Sink.accept, Sink.extend, output, attempt]

theorem output_mono (h : s.machine.sink.Endless) {j : Nat} (hjk : j ≤ k) :
    s.output clock j <+: s.output clock k := by
  induction hjk with
  | refl => exact List.prefix_rfl
  | step _ ih =>
    rw [output_succ h]
    exact ih.trans (List.prefix_append _ _)

theorem step_capped (h : s.machine.sink.Endless) {now : Nat}
    (hroom : (s.step now).1.machine.sink.written.size ≤ n) :
    (s.capped n).step now = ((s.step now).1.capped n, (s.step now).2) := by
  let a : Attempt := ⟨s.machine, (s.tick now).1⟩
  have hsize : (s.step now).1.machine.sink.written.size =
      a.before.sink.written.size + a.printed.length := a.size_after h
  have hstep : (s.machine.capped n).step a.tick = (s.machine.step a.tick).capped n := by
    rw [a.step_capped h (by omega), if_pos (by omega)]
  have htick : (s.capped n).tick now = s.tick now := rfl
  rw [step, htick]
  show (absorb _ ((s.machine.capped n).step a.tick), ((s.machine.capped n).step a.tick).fault) = _
  rw [hstep]
  rfl

/-- As long as the output fits, both systems are in the same state. -/
theorem after_capped (h : s.machine.sink.Endless) (hfits : (s.output clock k).length ≤ n) :
    (s.capped n).after clock k = (s.after clock k).capped n := by
  induction k with
  | zero => rfl
  | succ k ih =>
    have hbefore := Nat.le_trans (output_mono h (Nat.le_succ k)).length_le hfits
    rw [after, ih hbefore]
    exact congrArg Prod.fst (step_capped (endless_after h) hfits)

theorem attempt_capped (h : s.machine.sink.Endless) (hfits : (s.output clock k).length ≤ n) :
    (s.capped n).attempt clock k = (s.attempt clock k).capped n := by
  rw [attempt, after_capped h hfits]
  rfl

theorem fault_attempt_capped (h : s.machine.sink.Endless)
    (hfits : (s.output clock (k + 1)).length ≤ n) :
    ((s.capped n).attempt clock k).fault = (s.attempt clock k).fault := by
  have hbefore := Nat.le_trans (output_mono h (Nat.le_succ k)).length_le hfits
  have hstep := step_capped (n := n) (endless_after (k := k) h) hfits
  rw [← after_capped h hbefore] at hstep
  exact congrArg Prod.snd hstep

/-- The step after these `k` prints what a sink with room for `n` bytes can no longer hold. -/
structure Overflows (s : System) (clock : Nat → Nat) (n k : Nat) : Prop where
  goesOn : s.GoesOn clock k
  prints : (s.attempt clock k).Prints
  fits : (s.output clock k).length ≤ n
  exceeds : n < (s.output clock k).length + (s.attempt clock k).printed.length

theorem overflows_of_running (h : s.machine.sink.Endless)
    (hrun : (s.after clock k).machine.running = true) (hfits : (s.output clock k).length ≤ n)
    (hover : n < (s.output clock (k + 1)).length) : s.Overflows clock n k := by
  rw [output_succ h, List.length_append] at hover
  refine ⟨goesOn_of_running hrun, ?_, hfits, hover⟩
  apply Attempt.prints_of_printed_ne_nil
  intro hnil
  rw [hnil, List.length_nil] at hover
  omega

/-- The print that does not fit is refused, and fills the sink up. -/
theorem Overflows.attempt_capped (ho : s.Overflows clock n k) (h : s.machine.sink.Endless) :
    ((s.capped n).attempt clock k).fault = some (.output .full) ∧
      ∃ sink, ((s.capped n).attempt clock k).after =
          ((s.attempt clock k).polled.withSink sink).halt ∧
        sink.written.toList = (s.output clock (k + 1)).take n := by
  have hopen : (s.attempt clock k).before.sink.Endless := endless_after h
  have hsize : (s.output clock k).length = (s.attempt clock k).before.sink.written.size := rfl
  have hfits := ho.fits
  have hover := ho.exceeds
  have hstep := Attempt.step_capped hopen (hsize ▸ hfits)
  rw [if_neg (by omega)] at hstep
  rw [System.attempt_capped h hfits]
  refine ⟨congrArg Outcome.fault hstep, _, congrArg Outcome.machine hstep, ?_⟩
  have htake : (s.output clock k).take n = s.output clock k := List.take_of_length_le hfits
  rw [output_succ h, List.take_append, htake, hsize]
  simp [Sink.capped, Sink.extend, output, attempt]

end System

def Finished.capped (done : Finished) (n : Nat) : Finished :=
  { done with system := done.system.capped n }

namespace Run

variable {r : Run}

def capped (r : Run) (n : Nat) : Run := { r with system := r.system.capped n }

/-- A run that is over ends without another step. -/
theorem advance_of_over (now n : Nat) (h : r.system.machine.running = false ∨ r.atLimit = true) :
    ∃ done, r.advance now = .inr done ∧ (r.capped n).advance now = .inr (done.capped n) ∧
      done.output = r.system.machine.sink.written.toList := by
  have hrun : (r.capped n).system.machine.running = r.system.machine.running := rfl
  have hlimit : (r.capped n).atLimit = r.atLimit := rfl
  rw [advance, advance, hrun, hlimit]
  cases hr : r.system.machine.running with
  | false => exact ⟨_, rfl, rfl, rfl⟩
  | true =>
    obtain hl : r.atLimit = true := h.resolve_left (by simp [hr])
    rw [hl]
    exact ⟨_, rfl, rfl, rfl⟩

end Run

namespace System

variable {s : System} {clock : Nat → Nat} {limit : Option Nat} {n : Nat}

/-- Whatever a run still does, what it has put out stays. -/
theorem output_prefix_of_finish (h : s.machine.sink.Endless) {fuel k : Nat} {done : Finished}
    (hdone : (s.runAt clock limit k).finish clock fuel = some done) :
    s.output clock k <+: done.output := by
  induction fuel generalizing k with
  | zero => cases hdone
  | succ fuel ih =>
    rw [finish_runAt_succ] at hdone
    by_cases hover : (s.runAt clock limit k).system.machine.running = false ∨
        (s.runAt clock limit k).atLimit = true
    · obtain ⟨ended, hended, -, hout⟩ := Run.advance_of_over (clock (k + 1)) 0 hover
      rw [hended] at hdone
      obtain rfl : ended = done := Option.some.inj hdone
      rw [hout]
      exact List.prefix_rfl
    · rw [not_or, Bool.not_eq_false, Bool.not_eq_true] at hover
      rw [advance_runAt hover.1 (lt_of_atLimit_eq_false hover.2)] at hdone
      have hstep : s.output clock k <+: s.output clock (k + 1) := output_mono h (Nat.le_succ k)
      cases hf : (s.attempt clock k).fault with
      | none =>
        rw [hf] at hdone
        exact hstep.trans (ih hdone)
      | some f =>
        rw [hf] at hdone
        obtain rfl := Option.some.inj hdone
        exact hstep

/-- From any of its cycles on, a run whose output fits is followed by the capped run to its end, and
any other up to the first print that does not fit. -/
theorem finish_capped (h : s.machine.sink.Endless) {fuel k : Nat} {whole : Finished}
    (hfits : (s.output clock k).length ≤ n)
    (hwhole : (s.runAt clock limit k).finish clock fuel = some whole) :
    (whole.output.length ≤ n ∧
        ((s.capped n).runAt clock limit k).finish clock fuel = some (whole.capped n)) ∨
      ∃ j, (∀ l, limit = some l → j < l) ∧ s.Overflows clock n j ∧
        s.output clock (j + 1) <+: whole.output ∧
        ((s.capped n).runAt clock limit k).finish clock fuel =
          some ⟨(s.capped n).after clock (j + 1), .error (.output .full)⟩ := by
  induction fuel generalizing k with
  | zero => cases hwhole
  | succ fuel ih =>
    have hcapped : (s.capped n).runAt clock limit k = (s.runAt clock limit k).capped n := by
      rw [runAt, after_capped h hfits]
      rfl
    rw [finish_runAt_succ] at hwhole
    rw [finish_runAt_succ]
    by_cases hover : (s.runAt clock limit k).system.machine.running = false ∨
        (s.runAt clock limit k).atLimit = true
    · obtain ⟨ended, hended, hended', hout⟩ :=
        Run.advance_of_over (clock (k + 1)) n hover
      rw [hended] at hwhole
      obtain rfl : ended = whole := Option.some.inj hwhole
      refine .inl ⟨by rwa [hout], ?_⟩
      rw [hcapped, hended']
    · rw [not_or, Bool.not_eq_false, Bool.not_eq_true] at hover
      have hrun : (s.after clock k).machine.running = true := hover.1
      have hbelow := lt_of_atLimit_eq_false hover.2
      have hrun' : ((s.capped n).after clock k).machine.running = true := by
        rw [after_capped h hfits]
        exact hrun
      rw [advance_runAt hrun hbelow] at hwhole
      rw [advance_runAt hrun' hbelow]
      by_cases hnext : (s.output clock (k + 1)).length ≤ n
      · rw [fault_attempt_capped h hnext]
        cases hf : (s.attempt clock k).fault with
        | none =>
          rw [hf] at hwhole
          exact ih hnext hwhole
        | some f =>
          rw [hf] at hwhole
          obtain rfl := Option.some.inj hwhole
          refine .inl ⟨hnext, ?_⟩
          rw [after_capped h hnext]
          rfl
      · have ho := overflows_of_running h hrun hfits (Nat.lt_of_not_le hnext)
        have hnone : (s.attempt clock k).fault = none :=
          Attempt.fault_of_prints (endless_after h) ho.prints
        rw [hnone] at hwhole
        refine .inr ⟨k, hbelow, ho, output_prefix_of_finish h hwhole, ?_⟩
        rw [(ho.attempt_capped h).1]

/-- What was put out before any cycle of a run is a beginning of all that the run puts out. -/
theorem output_prefix_of_run (h : s.machine.sink.Endless) {whole : Finished}
    (hwhole : s.run limit clock = some whole) {k : Nat}
    (hgo : (s.started (clock 0)).GoesOn clock k) (hlimit : ∀ l, limit = some l → k ≤ l) :
    (s.started (clock 0)).output clock k <+: whole.output := by
  have hfuel : k ≤ limit.getD cycleRange := by
    cases limit with
    | some l => exact hlimit l rfl
    | none =>
      refine Decidable.byContradiction fun hlt => not_goesOn_of_run_none hwhole ?_
      rw [Option.getD_none, Nat.not_le] at hlt
      exact fun j hj => hgo j (by omega)
  have hsplit : limit.getD cycleRange + 1 = k + (limit.getD cycleRange - k + 1) := by omega
  rw [run_eq_finish, hsplit, finish_runAt rfl hgo hlimit] at hwhole
  exact output_prefix_of_finish (s := s.started (clock 0)) h hwhole

/-- A run with room for `n` bytes, beside that with an endless sink. If the whole output fits, they
agree in all states and in how they end. If not, they agree up to the first print that does not fit:
that one stops the run with the rest of the machine as the instruction found it, and with the first
`n` bytes of the whole output in the sink. -/
theorem run_capped {s : System} (h : s.machine.sink.Endless) {n : Nat}
    (hroom : s.machine.sink.written.size ≤ n) (limit : Option Nat) (clock : Nat → Nat) :
    (∀ l, limit = some l → ∃ whole, s.run limit clock = some whole) ∧
    ∀ whole, s.run limit clock = some whole →
      ∃ cut, (s.capped n).run limit clock = some cut ∧
        (whole.output.length ≤ n → cut = whole.capped n ∧
          ∀ k, (s.started (clock 0)).GoesOn clock k → (∀ l, limit = some l → k ≤ l) →
            ((s.capped n).started (clock 0)).after clock k =
              ((s.started (clock 0)).after clock k).capped n) ∧
        (n < whole.output.length →
          ∃ k, (∀ l, limit = some l → k < l) ∧ (s.started (clock 0)).Overflows clock n k ∧
            (∀ j ≤ k, ((s.capped n).started (clock 0)).after clock j =
              ((s.started (clock 0)).after clock j).capped n) ∧
            cut.result = .error (.output .full) ∧
            ∃ sink, cut.system.machine =
                (((s.started (clock 0)).attempt clock k).polled.withSink sink).halt ∧
              sink.written.toList = whole.output.take n) := by
  have hstarted : (s.capped n).started (clock 0) = (s.started (clock 0)).capped n := rfl
  refine ⟨?_, ?_⟩
  · rintro l rfl
    obtain ⟨whole, hends⟩ := exists_ends (s.started (clock 0)) clock l
    exact ⟨whole, run_of_ends hends⟩
  · intro whole hwhole
    have hopen : (s.started (clock 0)).machine.sink.Endless := h
    have hstart : ((s.started (clock 0)).output clock 0).length ≤ n := hroom
    have hbegins := fun k => output_prefix_of_run (k := k) h hwhole
    rw [run_eq_finish] at hwhole
    rw [run_eq_finish, hstarted]
    rcases finish_capped hopen hstart hwhole with
      ⟨hfits, hcut⟩ | ⟨k, hbelow, ho, hwithin, hcut⟩
    · refine ⟨_, hcut, ?_, fun hover => by omega⟩
      intro _
      refine ⟨rfl, ?_⟩
      intro k hgo hlimit
      exact after_capped hopen (Nat.le_trans (hbegins k hgo hlimit).length_le hfits)
    · have hover : n < ((s.started (clock 0)).output clock (k + 1)).length := by
        rw [output_succ hopen, List.length_append]
        exact ho.exceeds
      refine ⟨_, hcut, fun hfits => ?_, fun _ => ⟨k, hbelow, ho, ?_, rfl, ?_⟩⟩
      · have hle := hwithin.length_le
        omega
      · intro j hj
        exact after_capped hopen (Nat.le_trans (output_mono hopen hj).length_le ho.fits)
      · obtain ⟨-, sink, hmachine, hwritten⟩ := ho.attempt_capped hopen
        refine ⟨sink, hmachine, ?_⟩
        obtain ⟨more, hmore⟩ := hwithin
        rw [hwritten, ← hmore, List.take_append_of_le_length (Nat.le_of_lt hover)]

end System

/-- Prints 200 as a number and then as a character, which takes two bytes. -/
def printer : System where
  machine := (Machine.fresh .unbounded).patch
    [(0, 0x82), (2, 200), (3, 0x47), (5, 0x48), (7, 0x01)]
  timer := ⟨0, 0⟩
  log := #[]

/-- Room for all of the output, and for all but the second byte of the character. -/
theorem run_capped_printer :
    printer.machine.sink.Endless ∧ printer.machine.sink.written.size ≤ 5 ∧
      ∃ whole, printer.run (some 9) id = some whole ∧
        whole.output = [0x32, 0x30, 0x30, 0x0A, 0xC3, 0x88] ∧
        (printer.capped 6).run (some 9) id = some (whole.capped 6) ∧
        ∃ cut, (printer.capped 5).run (some 9) id = some cut ∧
          cut.result = .error (.output .full) ∧
          cut.output = [0x32, 0x30, 0x30, 0x0A, 0xC3] := by
  have hopen : printer.machine.sink.Endless := ⟨rfl, rfl⟩
  have hfive : printer.machine.sink.written.size ≤ 5 := Nat.zero_le 5
  have hsix : printer.machine.sink.written.size ≤ 6 := Nat.zero_le 6
  have hout : (printer.run (some 9) id).map Finished.output =
      some [0x32, 0x30, 0x30, 0x0A, 0xC3, 0x88] := by decide +kernel
  obtain ⟨whole, hwhole, hbytes⟩ := Option.map_eq_some_iff.1 hout
  obtain ⟨-, hlarge⟩ := System.run_capped hopen hsix (some 9) id
  obtain ⟨-, hsmall⟩ := System.run_capped hopen hfive (some 9) id
  obtain ⟨same, hsame, hfits, -⟩ := hlarge whole hwhole
  obtain ⟨cut, hcut, -, hover⟩ := hsmall whole hwhole
  obtain ⟨rfl, -⟩ := hfits (by rw [hbytes]; decide)
  obtain ⟨k, -, -, -, hresult, sink, hmachine, hwritten⟩ := hover (by rw [hbytes]; decide)
  refine ⟨hopen, hfive, whole, hwhole, hbytes, hsame, cut, hcut, hresult, ?_⟩
  rw [Finished.output, hmachine]
  exact hwritten.trans (by rw [hbytes]; rfl)

end ByteMachine
