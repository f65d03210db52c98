import ByteMachine.Proofs.Nesting

/-! What a single step says to the log: either that it dispatches an interrupt, or what the machine
looks like to the instruction, and then maybe what that instruction came to. -/

namespace ByteMachine

namespace Event

/-- A message of that level whose text starts so. -/
def Says (e : Event) (level : Level) (start : String) : Prop :=
  e.level = level ∧ start.toList <+: e.text.toList

instance (e : Event) (level : Level) (start : String) : Decidable (e.Says level start) :=
  inferInstanceAs (Decidable (_ ∧ _))

theorem starts_append (start rest : String) : start.toList <+: (start ++ rest).toList := by
  rw [String.toList_append]
  exact List.prefix_append _ _

theorem head?_of_starts {start label rest : String} (h : start.toList <+: (label ++ rest).toList)
    (hstart : start.toList.head?.isSome) (hlabel : label.toList.head?.isSome) :
    start.toList.head? = label.toList.head? := by
  obtain ⟨more, hmore⟩ := h
  have hhead := congrArg List.head? hmore
  rwa [String.toList_append, List.head?_append, List.head?_append, Option.or_of_isSome hstart,
    Option.or_of_isSome hlabel] at hhead

variable {e : Event}

@[simp] theorem says_trace_iff : e.Says .trace "TRACE: " ↔ ∃ shown, e = .trace shown := by
  cases e with
  | trace shown => exact iff_of_true ⟨rfl, starts_append _ _⟩ ⟨shown, rfl⟩
  | _ => simp [Says, level]

@[simp] theorem says_interrupt_iff :
    e.Says .info "INTERRUPT " ↔ ∃ n mask status, e = .interrupt n mask status := by
  cases e with
  | interrupt n mask status =>
    refine iff_of_true ⟨rfl, ?_⟩ ⟨n, mask, status, rfl⟩
    show "INTERRUPT ".toList <+: ("INTERRUPT " ++ Radix.decimal n ++ " im=" ++
      Radix.bits mask.toNat ++ " is=" ++ Radix.bits status.toNat).toList
    simp only [String.append_assoc]
    exact starts_append _ _
  | halted pc =>
    refine iff_of_false (fun h => ?_) nofun
    have hstarts : "INTERRUPT ".toList <+: ("halted at " ++ Radix.address pc).toList := h.2
    exact absurd (head?_of_starts hstarts (by decide) (by decide)) (by decide)
  | _ => simp [Says, level]

@[simp] theorem says_halted_iff : e.Says .info "halted at " ↔ ∃ pc, e = .halted pc := by
  cases e with
  | halted pc => exact iff_of_true ⟨rfl, starts_append _ _⟩ ⟨pc, rfl⟩
  | interrupt n mask status =>
    refine iff_of_false (fun h => ?_) nofun
    have hstarts : "halted at ".toList <+: ("INTERRUPT " ++ Radix.decimal n ++ " im=" ++
      Radix.bits mask.toNat ++ " is=" ++ Radix.bits status.toNat).toList := h.2
    simp only [String.append_assoc] at hstarts
    exact absurd (head?_of_starts hstarts (by decide) (by decide)) (by decide)
  | _ => simp [Says, level]

@[simp] theorem says_stopping_iff : e.Says .warn "stopping after " ↔ ∃ cycles, e = .stopping cycles := by
  cases e with
  | stopping cycles =>
    refine iff_of_true ⟨rfl, ?_⟩ ⟨cycles, rfl⟩
    show "stopping after ".toList <+:
      ("stopping after " ++ Radix.decimal cycles ++ " cycles").toList
    rw [String.append_assoc]
    exact starts_append _ _
  | strayReturn pc =>
    refine iff_of_false (fun h => ?_) nofun
    have hstarts : "stopping after ".toList <+:
      ("IRET at " ++ Radix.address pc ++ " with no interrupt taken").toList := h.2
    rw [String.append_assoc] at hstarts
    exact absurd (head?_of_starts hstarts (by decide) (by decide)) (by decide)
  | _ => simp [Says, level]

@[simp] theorem says_interruptReturn_iff :
    e.Says .debug "interrupt return to " ↔ ∃ pc, e = .interruptReturn pc := by
  cases e with
  | interruptReturn pc => exact iff_of_true ⟨rfl, starts_append _ _⟩ ⟨pc, rfl⟩
  | loading size =>
    refine iff_of_false (fun h => ?_) nofun
    have hstarts : "interrupt return to ".toList <+:
      ("loading " ++ Radix.decimal size ++ " bytes").toList := h.2
    rw [String.append_assoc] at hstarts
    exact absurd (head?_of_starts hstarts (by decide) (by decide)) (by decide)
  | _ => simp [Says, level]

end Event

namespace Outcome

@[simp] theorem events_done (m : Machine) : (done m).events = [] := rfl

@[simp] theorem events_after (e : Event) (o : Outcome) : (after e o).events = e :: o.events := rfl

/-- Work in two parts that say nothing says nothing. -/
theorem events_andThen {o : Outcome} {next : Machine → Outcome} (h : o.events = [])
    (hnext : ∀ m, (next m).events = []) : (o.andThen next).events = [] := by
  unfold andThen
  cases o.fault with
  | some f => exact h
  | none => simp [h, hnext]

end Outcome

namespace Machine

variable {m : Machine}

theorem events_dispatch (m : Machine) (n : Fin 8) :
    (m.dispatch n).events = [.interrupt n (m.reg Reg.im) (m.reg Reg.is)] := by
  unfold dispatch
  rw [Outcome.events_after]
  congr 1
  simp only []
  split
  · split <;> rfl
  · rfl

/-- A return that goes through says where it returns to, and whether an interrupt was taken. -/
theorem events_interruptReturn (m : Machine) :
    m.interruptReturn.events =
      if m.interruptReturn.fault = none then
        if m.savedMask.isSome then [.interruptReturn m.interruptReturn.machine.pc]
        else [.strayReturn m.interruptReturn.machine.pc]
      else [] := by
  have hkept := m.savedMask_popAll Slot.frame.reverse
  unfold interruptReturn
  split
  · rfl
  · next m' hpop =>
    rw [hpop] at hkept
    rw [← hkept]
    cases hm : m'.savedMask <;> rfl

theorem events_print (m : Machine) (text : List Char) : (m.print text).events = [] := by
  unfold print
  split <;> rfl

theorem events_flush (m : Machine) : m.flush.events = [] := by
  unfold flush
  split <;> rfl

/-- Only a halt and a return from an interrupt have something to say. -/
theorem events_act (m : Machine) {i : Instruction} (hhlt : i ≠ .hlt) (hret : i ≠ .iret) :
    (m.act i).events = [] := by
  cases i with
  | hlt => exact absurd rfl hhlt
  | iret => exact absurd rfl hret
  | prn a =>
    rw [act]
    exact events_print m _
  | pra a =>
    rw [act]
    exact Outcome.events_andThen (events_print m _) events_flush
  | binary | push | pop | ret | int =>
    simp only [act]
    split <;> rfl
  | call a =>
    simp only [act]
    split
    · split <;> rfl
    · rfl
  | _ => rfl

/-- Going on behind an instruction has nothing to say. -/
theorem events_execute (m : Machine) (i : Instruction) :
    (m.execute i).events = (m.act i).events := by
  rw [execute]
  rcases m.act i with ⟨m₁, _ | f, events⟩
  · exact List.append_nil events
  · rfl

/-- A return takes the program counter from the stack and is not gone on behind. -/
theorem execute_iret (m : Machine) : m.execute .iret = m.interruptReturn := by
  rw [execute, act]
  rcases m.interruptReturn with ⟨m₁, _ | f, events⟩
  · simp [Outcome.andThen, Outcome.done, goBehind_eq]
  · rfl

theorem events_step (m : Machine) (tick : Bool) : (m.step tick).events = (m.cycle tick).events := by
  simp only [step]
  split <;> rfl

end Machine

namespace Attempt

variable {a : Attempt} {n : Fin 8} {i : Instruction}

/-- What the step says to the log. -/
def events (a : Attempt) : List Event := (a.before.step a.tick).events

/-- What is to be said of a step. -/
def account (a : Attempt) : List Event :=
  match a.before.pending? with
  | some n => [.interrupt n (a.before.reg Reg.im) (a.before.reg Reg.is)]
  | none =>
    .trace a.polled.trace ::
      if a.Executes .hlt then [.halted a.before.pc]
      else if a.Unmasks then [.interruptReturn a.after.pc]
      else if a.Returns then [.strayReturn a.after.pc]
      else []

theorem events_of_dispatches (h : a.Dispatches n) :
    a.events = [.interrupt n (a.before.reg Reg.im) (a.before.reg Reg.is)] := by
  have hpending : a.before.pending? = some n := h
  rw [events, Machine.events_step, Machine.cycle, hpending]
  exact Machine.events_dispatch _ _

theorem events_of_fetch_error {f : Fault} (hp : a.before.pending? = none)
    (hf : a.polled.fetch = .error f) : a.events = [.trace a.polled.trace] := by
  rw [events, Machine.events_step, Machine.cycle, hp]
  show (a.polled.executeNext).events = _
  rw [Machine.executeNext, hf]
  rfl

theorem events_of_executes (h : a.Executes i) :
    a.events = .trace a.polled.trace :: (a.polled.execute i).events := by
  rw [events, Machine.events_step, Machine.cycle, h.1]
  show (a.polled.executeNext).events = _
  rw [Machine.executeNext, h.2]
  rfl

theorem Executes.iff_eq (h : a.Executes i) {j : Instruction} : a.Executes j ↔ j = i := by
  constructor
  · intro hj
    exact Except.ok.inj (hj.2.symm.trans h.2)
  · rintro rfl
    exact h

theorem events_eq_account (a : Attempt) : a.events = a.account := by
  cases a.course with
  | dispatch n hn =>
    have hpending : a.before.pending? = some n := hn
    rw [events_of_dispatches hn, account, hpending]
  | unread f hp hfetch _ _ =>
    have hnone (i : Instruction) : ¬a.Executes i := by
      intro he
      cases he.2.symm.trans hfetch
    rw [events_of_fetch_error hp hfetch, account, hp]
    simp [hnone, Unmasks, Returns]
  | executed i he hf heffect =>
    obtain ⟨hnone, hafter⟩ := heffect.yields_execute
    rw [events_of_executes he, account, he.1]
    by_cases hhlt : i = .hlt
    · subst hhlt
      simp [he, Machine.events_execute, Machine.act, Outcome.after, Outcome.done]
    · by_cases hret : i = .iret
      · subst hret
        rw [a.polled.execute_iret] at hnone hafter
        rw [a.polled.execute_iret, Machine.events_interruptReturn, if_pos hnone, hafter]
        simp [he.iff_eq, hf, Unmasks, Returns]
      · rw [Machine.events_execute, Machine.events_act _ hhlt hret]
        simp [he.iff_eq, Ne.symm hhlt, Ne.symm hret, Unmasks, Returns]
  | refused i f m he hf hrefused _ =>
    have hfails := hrefused.fails_execute
    rw [events_of_executes he, account, he.1]
    have hhlt : i ≠ .hlt := by
      rintro rfl
      cases hrefused
    by_cases hret : i = .iret
    · subst hret
      rw [a.polled.execute_iret] at hfails
      rw [a.polled.execute_iret, Machine.events_interruptReturn, hfails.1]
      simp [he.iff_eq, hf, Unmasks, Returns]
    · rw [Machine.events_execute, Machine.events_act _ hhlt hret]
      simp [he.iff_eq, Ne.symm hhlt, Ne.symm hret, Unmasks, Returns]

theorem Starts.not_executes (h : a.Starts) (i : Instruction) : ¬a.Executes i := by
  intro he
  rw [Starts, he.1] at h
  cases h

/-- How often a step says what it may say. -/
structure Counts (a : Attempt) : Prop where
  trace : a.events.countP (·.Says .trace "TRACE: ") = if a.Starts then 0 else 1
  interrupt : a.events.countP (·.Says .info "INTERRUPT ") = if a.Starts then 1 else 0
  halted : a.events.countP (·.Says .info "halted at ") = if a.Executes .hlt then 1 else 0
  interruptReturn : a.events.countP (·.Says .debug "interrupt return to ") =
    if a.Unmasks then 1 else 0
  stopping : a.events.countP (·.Says .warn "stopping after ") = 0

theorem counts (a : Attempt) : a.Counts := by
  have hsaid := a.events_eq_account
  unfold account at hsaid
  cases hp : a.before.pending? with
  | some n =>
    have hstarts : a.Starts := by simp [Starts, hp]
    have hunmasks : ¬a.Unmasks := fun h => hstarts.not_executes .iret h.1.1
    rw [hp] at hsaid
    constructor <;> simp [hsaid, hstarts, hstarts.not_executes, hunmasks]
  | none =>
    have hstarts : ¬a.Starts := by simp [Starts, hp]
    rw [hp] at hsaid
    by_cases hhlt : a.Executes .hlt
    · have hunmasks : ¬a.Unmasks := by
        intro h
        cases hhlt.iff_eq.1 h.1.1
      constructor <;> simp [hsaid, hstarts, hhlt, hunmasks]
    · by_cases hunmasks : a.Unmasks
      · constructor <;> simp [hsaid, hstarts, hhlt, hunmasks]
      · by_cases hret : a.Returns
        · constructor <;> simp [hsaid, hstarts, hhlt, hunmasks, hret]
        · constructor <;> simp [hsaid, hstarts, hhlt, hunmasks, hret]

/-- A trace shows the machine after the timer was asked and before the instruction is executed. -/
theorem text_of_trace (a : Attempt) {e : Event} (he : e ∈ a.events)
    (hshows : e.Says .trace "TRACE: ") : e.text = a.polled.trace.line := by
  obtain ⟨shown, rfl⟩ := Event.says_trace_iff.1 hshows
  rw [events_eq_account, account] at he
  cases hp : a.before.pending? with
  | some n => simp [hp] at he
  | none =>
    rw [hp, List.mem_cons] at he
    rcases he with hshown | hlast
    · rw [hshown]
      rfl
    · split at hlast
      · simp at hlast
      · split at hlast
        · simp at hlast
        · split at hlast <;> simp at hlast

end Attempt

end ByteMachine
