import ByteMachine.Proofs.Standstill

/-! What a step puts out. Only the two printing instructions look at the sink: all else that a
machine does, it does in the same way with every sink. -/

namespace ByteMachine

namespace Instruction

def prints : Instruction → Bool
  | .prn _ | .pra _ => true
  | _ => false

/-- How often the instruction flushes the sink. -/
def flushes : Instruction → Nat
  | .pra _ => 1
  | _ => 0

end Instruction

/-- The sink takes every byte and every flush. -/
structure Sink.Endless (s : Sink) : Prop where
  capacity : s.capacity = none
  flushable : s.flushable = true

/-- The sink after it took more bytes and was flushed `n` times. -/
def Sink.accept (s : Sink) (bs : List Byte) (n : Nat) : Sink :=
  { s.extend bs with flushes := s.flushes + n }

namespace Machine

/-- The machine with its output going to another sink. -/
def withSink (m : Machine) (t : Sink) : Machine := { m with sink := t }

end Machine

/-- The outcome with the output of its machine going to another sink. -/
def Outcome.withSink (o : Outcome) (t : Sink) : Outcome := { o with machine := o.machine.withSink t }

namespace Machine

variable (m : Machine) (t : Sink)

@[simp] theorem sink_withSink : (m.withSink t).sink = t := rfl

@[simp] theorem withSink_sink : m.withSink m.sink = m := rfl

theorem pending?_withSink : (m.withSink t).pending? = m.pending? := rfl

theorem fetch_withSink : (m.withSink t).fetch = m.fetch := rfl

theorem poll_withSink (tick : Bool) : (m.withSink t).poll tick = (m.poll tick).withSink t := by
  cases tick <;> rfl

theorem push_withSink (v : Byte) : (m.withSink t).push v = (m.push v).map (·.withSink t) := by
  by_cases hsp : m.reg Reg.sp = 0
  · have hsp' : (m.withSink t).reg Reg.sp = 0 := hsp
    rw [push, push, if_pos hsp, if_pos hsp']
    rfl
  · have hsp' : (m.withSink t).reg Reg.sp ≠ 0 := hsp
    rw [push_of_ne_zero v hsp, push_of_ne_zero v hsp']
    rfl

theorem pop_withSink :
    (m.withSink t).pop = m.pop.map fun p => (p.1, p.2.withSink t) := by
  by_cases hsp : m.reg Reg.sp = 255
  · have hsp' : (m.withSink t).reg Reg.sp = 255 := hsp
    rw [pop, pop, if_pos hsp, if_pos hsp']
    rfl
  · have hsp' : (m.withSink t).reg Reg.sp ≠ 255 := hsp
    rw [pop_of_ne_last hsp, pop_of_ne_last hsp']
    rfl

theorem pushAll_withSink (vs : List Byte) :
    (m.withSink t).pushAll vs = ((m.pushAll vs).1.withSink t, (m.pushAll vs).2) := by
  induction vs generalizing m with
  | nil => rfl
  | cons v vs ih =>
    rw [pushAll, pushAll, push_withSink]
    cases m.push v with
    | ok m₁ => exact ih m₁
    | error f => rfl

theorem popAll_withSink (slots : List Slot) :
    (m.withSink t).popAll slots = ((m.popAll slots).1.withSink t, (m.popAll slots).2) := by
  induction slots generalizing m with
  | nil => rfl
  | cons slot slots ih =>
    rw [popAll, popAll, pop_withSink]
    cases m.pop with
    | ok p => exact ih { p.2 with regs := slot.set p.2.regs p.1 }
    | error f => rfl

theorem dispatch_withSink (n : Fin 8) :
    (m.withSink t).dispatch n = (m.dispatch n).withSink t := by
  have hack : (m.withSink t).acknowledge n = (m.acknowledge n).withSink t := rfl
  have hpc : ((m.acknowledge n).withSink t).pc = (m.acknowledge n).pc := rfl
  have hregs : ((m.acknowledge n).withSink t).regs = (m.acknowledge n).regs := rfl
  simp only [dispatch, hack, hpc, hregs, pushAll_withSink]
  split
  · rcases (m.acknowledge n).pushAll (Slot.frame.map (Slot.get (m.acknowledge n).regs)) with
      ⟨m₁, _ | f⟩ <;> rfl
  · rfl

theorem interruptReturn_withSink :
    (m.withSink t).interruptReturn = m.interruptReturn.withSink t := by
  rw [interruptReturn, interruptReturn, popAll_withSink]
  rcases m.popAll Slot.frame.reverse with ⟨m₁, _ | f⟩
  · simp only [show (m₁.withSink t).savedMask = m₁.savedMask from rfl]
    cases m₁.savedMask <;> rfl
  · rfl

theorem goBehind_withSink (i : Instruction) :
    (m.withSink t).goBehind i = (m.goBehind i).withSink t := by
  simp only [goBehind]
  split <;> rfl

variable {m}

theorem act_withSink {i : Instruction} (hi : i.prints = false) :
    (m.withSink t).act i = (m.act i).withSink t := by
  have hreg (r : Reg) : (m.withSink t).reg r = m.reg r := rfl
  have hpc : (m.withSink t).pc = m.pc := rfl
  cases i with
  | prn a | pra a => cases hi
  | binary op a b =>
    simp only [act, hreg]
    cases op.apply (m.reg a) (m.reg b) with
    | ok result => cases result <;> rfl
    | error f => rfl
  | push a =>
    simp only [act, hreg, push_withSink]
    cases m.push (m.reg a) <;> rfl
  | pop a =>
    simp only [act, pop_withSink]
    cases m.pop <;> rfl
  | call a =>
    simp only [act, hreg, hpc, push_withSink]
    split
    · cases m.push (BitVec.ofNat 8 (m.pc + 2)) <;> rfl
    · rfl
  | ret =>
    simp only [act, pop_withSink]
    cases m.pop <;> rfl
  | int a =>
    simp only [act, hreg]
    split <;> rfl
  | iret => exact m.interruptReturn_withSink t
  | _ => rfl

/-- An instruction that does not print does not look at the sink. -/
theorem execute_withSink {i : Instruction} (hi : i.prints = false) :
    (m.withSink t).execute i = (m.execute i).withSink t := by
  rw [execute, execute, act_withSink t hi]
  rcases m.act i with ⟨m₁, _ | f, events⟩
  · simp only [Outcome.andThen, Outcome.withSink, goBehind_withSink]
    rfl
  · rfl

/-- A printing instruction writes its bytes, flushes, and goes on behind itself. -/
theorem execute_of_prints {i : Instruction} (hi : i.prints = true)
    (hf : m.sink.flushable = true) :
    m.execute i =
      match m.sink.write (m.output i) with
      | (sink, none) =>
        .done ((m.withSink { sink with flushes := sink.flushes + i.flushes }).goto (m.pc + 2))
      | (sink, some cause) => .stopped (m.withSink sink) (.output cause) := by
  cases i with
  | prn a =>
    simp only [execute, act, print, output, Instruction.flushes, goBehind_eq]
    rcases m.sink.write (Text.utf8 (numberText (m.reg a))) with ⟨sink, _ | cause⟩ <;> rfl
  | pra a =>
    obtain ⟨taken, -, hwrite⟩ :=
      m.sink.exists_write_eq_extend (Text.utf8 (characterText (m.reg a)))
    simp only [execute, act, print, output, Instruction.flushes, goBehind_eq]
    rcases h : m.sink.write (Text.utf8 (characterText (m.reg a))) with ⟨sink, _ | cause⟩
    · rw [h] at hwrite
      obtain rfl : sink = m.sink.extend taken := hwrite
      have hflushable : (m.sink.extend taken).flushable = true := hf
      simp [Outcome.andThen, Outcome.done, flush, Sink.flush, hflushable, withSink, goto, pc]
    · rfl
  | _ => cases hi

end Machine

namespace Attempt

variable {a : Attempt} {i : Instruction}

/-- The instruction that the step starts to execute, if it comes to one. -/
def instruction? (a : Attempt) : Option Instruction :=
  if a.before.pending?.isSome then none else a.polled.fetch.toOption

theorem instruction?_eq_some_iff : a.instruction? = some i ↔ a.Executes i := by
  unfold instruction? Executes
  cases a.before.pending? with
  | some n => simp
  | none => cases a.polled.fetch <;> simp [Except.toOption]

/-- The step starts to execute a printing instruction. -/
def Prints (a : Attempt) : Prop := ∃ i, a.Executes i ∧ i.prints = true

/-- The bytes that the step puts out where nothing hinders it. -/
def printed (a : Attempt) : List Byte := (a.instruction?.map a.polled.output).getD []

/-- How often the step flushes the sink. -/
def flushed (a : Attempt) : Nat := (a.instruction?.map Instruction.flushes).getD 0

theorem Executes.prints_eq_false (h : a.Executes i) (hp : ¬a.Prints) : i.prints = false := by
  rw [← Bool.not_eq_true]
  exact fun hprints => hp ⟨i, h, hprints⟩

theorem Executes.printed (h : a.Executes i) : a.printed = a.polled.output i := by
  rw [Attempt.printed, instruction?_eq_some_iff.2 h]
  rfl

theorem Executes.flushed (h : a.Executes i) : a.flushed = i.flushes := by
  rw [Attempt.flushed, instruction?_eq_some_iff.2 h]
  rfl

/-- Where no printing instruction is executed, nothing is put out. -/
theorem printed_of_not_prints (h : ¬a.Prints) : a.printed = [] ∧ a.flushed = 0 := by
  cases hi : a.instruction? with
  | none => simp [printed, flushed, hi]
  | some i =>
    have he := instruction?_eq_some_iff.1 hi
    have hprints := he.prints_eq_false h
    rw [he.printed, he.flushed]
    cases i with
    | prn a | pra a => cases hprints
    | _ => exact ⟨rfl, rfl⟩

/-- A step that does not print takes the same course with every sink, and leaves the sink alone. -/
theorem step_withSink_of_not_prints (h : ¬a.Prints) (t : Sink) :
    (a.before.withSink t).step a.tick = (a.before.step a.tick).withSink t := by
  have hcycle : (a.before.withSink t).cycle a.tick = (a.before.cycle a.tick).withSink t := by
    rw [Machine.cycle, Machine.cycle, Machine.pending?_withSink]
    cases hp : a.before.pending? with
    | some n => exact a.before.dispatch_withSink t n
    | none =>
      have htrace : (a.polled.withSink t).trace = a.polled.trace := rfl
      show ((a.before.withSink t).poll a.tick).executeNext = a.polled.executeNext.withSink t
      rw [Machine.poll_withSink]
      show (a.polled.withSink t).executeNext = _
      rw [Machine.executeNext, Machine.executeNext, Machine.fetch_withSink, htrace]
      cases hi : a.polled.fetch with
      | error f => rfl
      | ok i =>
        have hprints : i.prints = false := Executes.prints_eq_false ⟨hp, hi⟩ h
        simp only [Machine.execute_withSink t hprints]
        rfl
  rw [Machine.step, Machine.step, hcycle]
  rcases a.before.cycle a.tick with ⟨m, _ | f, events⟩ <;> rfl

theorem sink_of_not_prints (h : ¬a.Prints) : a.after.sink = a.before.sink :=
  congrArg (fun o => o.machine.sink) (step_withSink_of_not_prints h a.before.sink)

/-- A step that prints to a sink which takes every flush either puts out all its bytes and goes on
to the next instruction, or is stopped by the sink with nothing else changed. -/
theorem step_withSink_of_prints (h : a.Prints) {t : Sink} (hf : t.flushable = true) :
    (a.before.withSink t).step a.tick =
      match t.write a.printed with
      | (sink, none) =>
        ⟨(a.polled.withSink { sink with flushes := sink.flushes + a.flushed }).goto
          (a.polled.pc + 2), none, [.trace a.polled.trace]⟩
      | (sink, some cause) =>
        ⟨(a.polled.withSink sink).halt, some (.output cause), [.trace a.polled.trace]⟩ := by
  obtain ⟨i, he, hi⟩ := h
  have hcycle : (a.before.withSink t).cycle a.tick =
      .after (.trace a.polled.trace) ((a.polled.withSink t).execute i) := by
    rw [Machine.cycle, Machine.pending?_withSink, he.1]
    show ((a.before.withSink t).poll a.tick).executeNext = _
    rw [Machine.poll_withSink]
    show (a.polled.withSink t).executeNext = _
    rw [Machine.executeNext, Machine.fetch_withSink, he.2]
    rfl
  have hout : (a.polled.withSink t).output i = a.polled.output i := by
    cases i <;> rfl
  rw [Machine.step, hcycle, Machine.execute_of_prints hi hf, he.printed, he.flushed, hout,
    Machine.sink_withSink]
  rcases t.write (a.polled.output i) with ⟨sink, _ | cause⟩ <;> rfl

/-- An endless sink refuses no print. -/
theorem step_of_prints (h : a.before.sink.Endless) (hp : a.Prints) :
    a.before.step a.tick =
      ⟨(a.polled.withSink (a.before.sink.accept a.printed a.flushed)).goto (a.polled.pc + 2), none,
        [.trace a.polled.trace]⟩ := by
  have hstep := step_withSink_of_prints hp h.flushable
  rwa [Machine.withSink_sink, Sink.write_of_capacity_none h.capacity] at hstep

theorem fault_of_prints (h : a.before.sink.Endless) (hp : a.Prints) : a.fault = none :=
  congrArg Outcome.fault (step_of_prints h hp)

/-- With an endless sink every step puts out what it prints. -/
theorem sink_after (h : a.before.sink.Endless) :
    a.after.sink = a.before.sink.accept a.printed a.flushed := by
  by_cases hp : a.Prints
  · exact congrArg (fun o => o.machine.sink) (step_of_prints h hp)
  · obtain ⟨hprinted, hflushed⟩ := printed_of_not_prints hp
    rw [sink_of_not_prints hp, hprinted, hflushed]
    simp [Sink.accept, Sink.extend]

theorem endless_after (h : a.before.sink.Endless) : a.after.sink.Endless := by
  rw [sink_after h]
  exact ⟨h.capacity, h.flushable⟩

end Attempt

end ByteMachine
