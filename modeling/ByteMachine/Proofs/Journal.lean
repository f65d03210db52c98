import ByteMachine.Proofs.Display
import ByteMachine.Proofs.Messages
import ByteMachine.Proofs.Steady

/-! What a run writes to the log. Its steps account for themselves one after another, and a run that
its limit ended says so last. -/

namespace ByteMachine

/-- A warning that so many cycles are used up, with their number as a decimal numeral. -/
def Event.WarnsAfter (e : Event) (cycles : Nat) : Prop :=
  e.level = .warn ∧ ∃ word : String, Text.utf8 word.toList = Text.numeral cycles ∧
    e.text = "stopping after " ++ word ++ " cycles"

theorem Event.warnsAfter_stopping (n : Nat) : (stopping n).WarnsAfter n :=
  ⟨rfl, Radix.decimal n, Text.utf8_decimal n, rfl⟩

namespace System

variable {s : System} {clock : Nat → Nat} {limit : Option Nat} {k : Nat}

/-- What the first `k` steps say to the log. -/
def said (s : System) (clock : Nat → Nat) (k : Nat) : List Event :=
  (List.range k).flatMap fun j => (s.attempt clock j).events

theorem said_succ : s.said clock (k + 1) = s.said clock k ++ (s.attempt clock k).events := by
  simp [said, List.range_succ]

theorem log_after : (s.after clock k).log.toList = s.log.toList ++ s.said clock k := by
  induction k with
  | zero => simp [after, said]
  | succ k ih =>
    have hlog : (s.after clock (k + 1)).log =
        (s.after clock k).log ++ (s.attempt clock k).events := rfl
    rw [hlog, Array.toList_appendList, ih, said_succ, List.append_assoc]

/-- Every step opens with a trace or an interrupt. -/
theorem openings_said :
    (s.said clock k).countP (·.Says .trace "TRACE: ") +
      (s.said clock k).countP (·.Says .info "INTERRUPT ") = k := by
  induction k with
  | zero => rfl
  | succ k ih =>
    have hcounts := (s.attempt clock k).counts
    rw [said_succ, List.countP_append, List.countP_append, hcounts.trace, hcounts.interrupt]
    split <;> omega

theorem depth_said :
    (s.said clock k).countP (·.Says .info "INTERRUPT ") + s.machine.depth =
      (s.said clock k).countP (·.Says .debug "interrupt return to ") +
        (s.after clock k).machine.depth := by
  induction k with
  | zero => rfl
  | succ k ih =>
    have hcounts := (s.attempt clock k).counts
    have hstep := (s.attempt clock k).depth_after
    have hbefore : (s.attempt clock k).before = (s.after clock k).machine := rfl
    rw [hbefore, ← machine_after_succ] at hstep
    rw [said_succ, List.countP_append, List.countP_append, hcounts.interrupt,
      hcounts.interruptReturn]
    omega

theorem halted_said (h : s.GoesOn clock k) :
    (s.said clock k).countP (·.Says .info "halted at ") = 0 := by
  induction k with
  | zero => rfl
  | succ k ih =>
    have hlast := (h k (Nat.lt_succ_self k)).2
    rw [said_succ, List.countP_append, (s.attempt clock k).counts.halted, if_neg hlast,
      ih fun j hj => h j (Nat.lt_succ_of_lt hj)]

theorem stopping_said : (s.said clock k).countP (·.Says .warn "stopping after ") = 0 := by
  induction k with
  | zero => rfl
  | succ k ih => rw [said_succ, List.countP_append, (s.attempt clock k).counts.stopping, ih]

/-- In a run from `s` that takes `k` steps and ends with `done`, the `entries` are written to the
log: those of the steps, and one more if the limit ended the run. -/
structure Journal (s : System) (clock : Nat → Nat) (limit : Option Nat) (done : Finished)
    (k : Nat) (entries : List Event) : Prop where
  log : done.system.log.toList = s.log.toList ++ entries
  steps : s.said clock k <+: entries
  openings : entries.countP (·.Says .trace "TRACE: ") +
    entries.countP (·.Says .info "INTERRUPT ") = k
  depth : entries.countP (·.Says .info "INTERRUPT ") + s.machine.depth =
    entries.countP (·.Says .debug "interrupt return to ") + done.system.machine.depth
  ok : ∀ n, done.result = .ok n → k = n ∧
    ((∃ i, n = i + 1 ∧ s.GoesOn clock i ∧ (s.attempt clock i).Executes .hlt ∧
        entries.countP (·.Says .info "halted at ") = 1 ∧
        entries.countP (·.Says .warn "stopping after ") = 0) ∨
      limit = some n ∧ s.GoesOn clock n ∧ .stopping n ∈ entries ∧ (Event.stopping n).WarnsAfter n ∧
        entries.countP (·.Says .info "halted at ") = 0 ∧
        entries.countP (·.Says .warn "stopping after ") = 1)
  error : ∀ f, done.result = .error f →
    (∃ good, k = good + 1 ∧ s.GoesOn clock good ∧ (s.attempt clock good).fault = some f) ∧
      entries.countP (·.Says .info "halted at ") = 0 ∧
      entries.countP (·.Says .warn "stopping after ") = 0

/-- A run that one of its steps ended has no more to say than its steps have. -/
theorem journal_said {result : Except Fault Nat}
    (hok : ∀ n, result = .ok n → k = n ∧ ∃ i, n = i + 1 ∧ s.GoesOn clock i ∧
      (s.attempt clock i).Executes .hlt)
    (herror : ∀ f, result = .error f → ∃ good, k = good + 1 ∧ s.GoesOn clock good ∧
      (s.attempt clock good).fault = some f) :
    s.Journal clock limit ⟨s.after clock k, result⟩ k (s.said clock k) where
  log := log_after
  steps := List.prefix_rfl
  openings := openings_said
  depth := depth_said
  ok := by
    intro n hn
    obtain ⟨hk, i, rfl, hgo, hhlt⟩ := hok n hn
    refine ⟨hk, .inl ⟨i, rfl, hgo, hhlt, ?_, stopping_said⟩⟩
    rw [hk, said_succ, List.countP_append, halted_said hgo, (s.attempt clock i).counts.halted,
      if_pos hhlt]
  error := by
    intro f hf
    obtain ⟨good, rfl, hgo, hfault⟩ := herror f hf
    have hnever : ¬(s.attempt clock good).Executes .hlt := by
      intro hhlt
      cases hhlt.halted.1.symm.trans hfault
    refine ⟨⟨good, rfl, hgo, hfault⟩, ?_, stopping_said⟩
    rw [said_succ, List.countP_append, halted_said hgo, (s.attempt clock good).counts.halted,
      if_neg hnever]

/-- A run that its limit ended says so once, after its steps. -/
theorem journal_cutOff {n : Nat} (hgo : s.GoesOn clock n) :
    s.Journal clock (some n) ⟨s.cutOff clock n, .ok n⟩ n (s.said clock n ++ [.stopping n]) := by
  have hothers {p : Event → Bool} (hp : p (.stopping n) = false) :
      (s.said clock n ++ [Event.stopping n]).countP p = (s.said clock n).countP p := by
    rw [List.countP_append, List.countP_singleton, hp]
    rfl
  constructor
  · have hlog : (s.cutOff clock n).log = (s.after clock n).log.push (.stopping n) := rfl
    rw [hlog, Array.toList_push, log_after, List.append_assoc]
  · exact List.prefix_append _ _
  · rw [hothers, hothers]
    · exact openings_said
    · simp
    · simp
  · rw [hothers, hothers]
    · exact depth_said
    · simp
    · simp
  · rintro _ ⟨rfl⟩
    refine ⟨rfl, .inr ⟨rfl, hgo, by simp, Event.warnsAfter_stopping n, ?_, ?_⟩⟩
    · rw [hothers]
      · exact halted_said hgo
      · simp
    · rw [List.countP_append, stopping_said]
      simp
  · exact nofun

theorem Ends.exists_journal {n : Nat} {done : Finished} (h : s.Ends clock (some n) done)
    (hn : limit = some n ∨ ¬s.GoesOn clock n) :
    ∃ k entries, s.Journal clock limit done k entries := by
  cases h with
  | halted i hi hgo hhlt =>
    refine ⟨i + 1, _, journal_said ?_ nofun⟩
    rintro _ ⟨rfl⟩
    exact ⟨rfl, i, rfl, hgo, hhlt⟩
  | faulted i f hi hgo hf =>
    refine ⟨i + 1, _, journal_said nofun ?_⟩
    rintro _ ⟨rfl⟩
    exact ⟨i, rfl, hgo, hf⟩
  | cutOff l hl hgo =>
    obtain rfl : n = l := Option.some.inj hl
    obtain rfl : limit = some n := hn.resolve_right (not_not_intro hgo)
    exact ⟨n, _, journal_cutOff hgo⟩

/-- Every cycle of a run, also one that meets a fault, opens either with a trace that shows the
machine as the instruction finds it or, exactly if it starts a dispatch, with an interrupt. A run
that ends well says how, and one that meets a fault does not. Interrupts and returns from them
balance but for a mask that is still put aside. -/
theorem run_journal {s : System} {limit : Option Nat} {clock : Nat → Nat} {done : Finished}
    (h : s.run limit clock = some done) :
    (∀ j, ((s.started (clock 0)).attempt clock j).Counts ∧
      ∀ e ∈ ((s.started (clock 0)).attempt clock j).events, e.Says .trace "TRACE: " →
        e.text = ((s.started (clock 0)).attempt clock j).polled.trace.line ∧
          ((s.started (clock 0)).attempt clock j).polled.ShownIn e.text) ∧
    ∃ k entries, (s.started (clock 0)).Journal clock limit done k entries := by
  refine ⟨?_, ?_⟩
  · intro j
    refine ⟨Attempt.counts _, fun e he hsays => ?_⟩
    have htext := Attempt.text_of_trace _ he hsays
    exact ⟨htext, htext ▸ Machine.shownIn_trace _⟩
  · obtain ⟨n, hends, hn⟩ := exists_ends_of_run h
    exact hends.exists_journal hn

end System

/-- The halt comes in the last cycle that the limit allows. -/
theorem run_journal_busy :
    ∃ done entries, busy.run (some 9) id = some done ∧ done.result = .ok 9 ∧
      done.system.log.toList = entries ∧
      entries.countP (·.Says .trace "TRACE: ") + entries.countP (·.Says .info "INTERRUPT ") = 9 ∧
      entries.countP (·.Says .info "halted at ") = 1 ∧
      entries.countP (·.Says .warn "stopping after ") = 0 := by
  have hgo : ∀ j < 8, ((busy.started (id 0)).attempt id j).GoesOn := by decide +kernel
  have hhlt : ((busy.started (id 0)).attempt id 8).Executes .hlt := by decide +kernel
  have hends : (busy.started (id 0)).Ends id (some 9) _ := .halted 8 (by decide) hgo hhlt
  have hrun : busy.run (some 9) id = some _ := System.run_of_ends hends
  obtain ⟨-, k, entries, hjournal⟩ := System.run_journal hrun
  obtain ⟨rfl, ⟨i, -, -, -, hhalted, hstopping⟩ | ⟨-, hlonger, -⟩⟩ := hjournal.ok 9 rfl
  · exact ⟨_, entries, hrun, rfl, hjournal.log, hjournal.openings, hhalted, hstopping⟩
  · exact absurd hhlt (hlonger 8 (by decide)).2

end ByteMachine
