import ByteMachine.Proofs.Footprint
import ByteMachine.Proofs.Sink

/-! What each instruction leaves behind when it meets a fault. `Refusal` is the account of it by
rules, one for each way to fail, as `Effect` is for instructions that go through. -/

namespace ByteMachine

namespace Outcome

/-- The work met the fault `f` and left the machine `m`. -/
def Fails (o : Outcome) (f : Fault) (m : Machine) : Prop := o.fault = some f ∧ o.machine = m

@[simp] theorem not_fails_done {m m' : Machine} {f : Fault} : ¬(done m).Fails f m' := by
  simp [Fails, done]

@[simp] theorem fails_stopped {m m' : Machine} {f g : Fault} :
    (stopped m g).Fails f m' ↔ f = g ∧ m' = m := by
  simp [Fails, stopped, eq_comm]

@[simp] theorem fails_after {event : Event} {o : Outcome} {f : Fault} {m : Machine} :
    (after event o).Fails f m ↔ o.Fails f m :=
  Iff.rfl

/-- Work in two parts fails in the first, or in the second after the first went through. -/
@[simp] theorem fails_andThen {o : Outcome} {next : Machine → Outcome} {f : Fault} {m : Machine} :
    (o.andThen next).Fails f m ↔ o.Fails f m ∨ ∃ m₁, o.Yields m₁ ∧ (next m₁).Fails f m := by
  obtain ⟨m₀, _ | g, events⟩ := o
  · simp [andThen, Fails, Yields]
  · simp [andThen, Fails, Yields]

end Outcome

theorem BinaryOp.apply_eq_error_iff {op : BinaryOp} {a b : Byte} {f : Fault} :
    op.apply a b = .error f ↔ (op = .div ∨ op = .mod) ∧ b = 0 ∧ f = .divisionByZero := by
  cases op with
  | div | mod =>
    rw [apply]
    split
    · next hb => simp [hb, eq_comm]
    · next hb => simpa using fun h => absurd h hb
  | _ => simp [apply]

namespace Machine

theorem fails_print {m m' : Machine} {text : List Char} {f : Fault} :
    (m.print text).Fails f m' ↔ ∃ sink cause,
      m.sink.write (Text.utf8 text) = (sink, some cause) ∧ f = .output cause ∧
        m' = { m with sink := sink } := by
  unfold print
  split
  · next sink h => simp [h]
  · next sink cause h =>
    rw [Outcome.fails_stopped]
    constructor
    · rintro ⟨rfl, rfl⟩
      exact ⟨sink, cause, h, rfl, rfl⟩
    · rintro ⟨sink', cause', h', rfl, rfl⟩
      cases h.symm.trans h'
      exact ⟨rfl, rfl⟩

theorem fails_flush {m m' : Machine} {f : Fault} :
    m.flush.Fails f m' ↔ m.sink.flushable = false ∧ f = .output .flushFailed ∧ m' = m := by
  cases h : m.sink.flushable <;> simp [flush, Sink.flush, h]

theorem fails_interruptReturn {m m' : Machine} {f : Fault} :
    m.interruptReturn.Fails f m' ↔ m.popAll Slot.frame.reverse = (m', some f) := by
  unfold interruptReturn
  split
  · next m₁ g h => simp [h, eq_comm, and_comm]
  · next m₁ h => cases hm : m₁.savedMask <;> simp [h]

/-- Going on behind an instruction never fails. -/
theorem fails_execute {m m' : Machine} {i : Instruction} {f : Fault} :
    (m.execute i).Fails f m' ↔ (m.act i).Fails f m' := by
  simp only [execute, Outcome.fails_andThen, Outcome.not_fails_done, and_false, exists_false,
    or_false]

end Machine

/-- `Refusal m i f m'`: on the machine `m` the instruction `i` meets the fault `f`, which leaves
`m'`. -/
inductive Refusal (m : Machine) : Instruction → Fault → Machine → Prop where
  | divide {op : BinaryOp} {a b : Reg} : op = .div ∨ op = .mod → m.reg b = 0 →
    Refusal m (.binary op a b) .divisionByZero m
  | push (a : Reg) : m.reg Reg.sp = 0 → Refusal m (.push a) .stackOverflow m
  | pop (a : Reg) : m.reg Reg.sp = 255 → Refusal m (.pop a) .stackUnderflow m
  | prn {a : Reg} {sink : Sink} {cause : OutputError} :
    m.sink.write (Text.utf8 (Machine.numberText (m.reg a))) = (sink, some cause) →
      Refusal m (.prn a) (.output cause) { m with sink := sink }
  | pra {a : Reg} {sink : Sink} {cause : OutputError} :
    m.sink.write (Text.utf8 (Machine.characterText (m.reg a))) = (sink, some cause) →
      Refusal m (.pra a) (.output cause) { m with sink := sink }
  | flush {a : Reg} {sink : Sink} :
    m.sink.write (Text.utf8 (Machine.characterText (m.reg a))) = (sink, none) →
      sink.flushable = false → Refusal m (.pra a) (.output .flushFailed) { m with sink := sink }
  | callEnd (a : Reg) : Memory.size ≤ m.pc + 2 →
    Refusal m (.call a) (.outOfBounds (m.pc + 2)) m
  | callFull (a : Reg) : m.pc + 2 < Memory.size → m.reg Reg.sp = 0 →
    Refusal m (.call a) .stackOverflow m
  | ret : m.reg Reg.sp = 255 → Refusal m .ret .stackUnderflow m
  | int (a : Reg) : 8 ≤ (m.reg a).toNat → Refusal m (.int a) (.invalidInterrupt (m.reg a)) m
  | iret {f : Fault} {m' : Machine} : m.popAll Slot.frame.reverse = (m', some f) →
    Refusal m .iret f m'

namespace Refusal

theorem fails_execute {m m' : Machine} {i : Instruction} {f : Fault} (h : Refusal m i f m') :
    (m.execute i).Fails f m' := by
  rw [Machine.fails_execute]
  cases h with
  | @divide op a b hop hb =>
    have happly : op.apply (m.reg a) (m.reg b) = .error .divisionByZero :=
      BinaryOp.apply_eq_error_iff.2 ⟨hop, hb, rfl⟩
    simp [Machine.act, happly]
  | push a hsp => simp [Machine.act, Machine.push, hsp]
  | pop a hsp => simp [Machine.act, Machine.pop, hsp]
  | prn hw => exact Machine.fails_print.2 ⟨_, _, hw, rfl, rfl⟩
  | pra hw =>
    rw [Machine.act, Outcome.fails_andThen, Machine.fails_print]
    exact .inl ⟨_, _, hw, rfl, rfl⟩
  | flush hw hf =>
    rw [Machine.act, Outcome.fails_andThen]
    exact .inr ⟨_, Machine.yields_print.2 ⟨_, hw, rfl⟩, Machine.fails_flush.2 ⟨hf, rfl, rfl⟩⟩
  | callEnd a hpc => simp [Machine.act, Nat.not_lt.2 hpc]
  | callFull a hpc hsp => simp [Machine.act, Machine.push, hpc, hsp]
  | ret hsp => simp [Machine.act, Machine.pop, hsp]
  | int a hn => simp [Machine.act, Nat.not_lt.2 hn]
  | iret h => exact Machine.fails_interruptReturn.2 h

theorem of_fails_execute {m m' : Machine} {i : Instruction} {f : Fault}
    (h : (m.execute i).Fails f m') : Refusal m i f m' := by
  rw [Machine.fails_execute] at h
  cases i with
  | binary op a b =>
    simp only [Machine.act] at h
    split at h
    · exact (Outcome.not_fails_done h).elim
    · exact (Outcome.not_fails_done h).elim
    · next g hg =>
      obtain ⟨hop, hb, rfl⟩ := BinaryOp.apply_eq_error_iff.1 hg
      obtain ⟨rfl, rfl⟩ := Outcome.fails_stopped.1 h
      exact .divide hop hb
  | push a =>
    by_cases hsp : m.reg Reg.sp = 0
    · simp only [Machine.act, Machine.push, if_pos hsp, Outcome.fails_stopped] at h
      obtain ⟨rfl, rfl⟩ := h
      exact .push a hsp
    · simp [Machine.act, Machine.push_of_ne_zero _ hsp] at h
  | pop a =>
    by_cases hsp : m.reg Reg.sp = 255
    · simp only [Machine.act, Machine.pop, if_pos hsp, Outcome.fails_stopped] at h
      obtain ⟨rfl, rfl⟩ := h
      exact .pop a hsp
    · simp [Machine.act, Machine.pop_of_ne_last hsp] at h
  | prn a =>
    obtain ⟨sink, cause, hw, rfl, rfl⟩ := Machine.fails_print.1 h
    exact .prn hw
  | pra a =>
    simp only [Machine.act, Outcome.fails_andThen, Machine.fails_print, Machine.yields_print,
      Machine.fails_flush] at h
    rcases h with ⟨sink, cause, hw, rfl, rfl⟩ | ⟨_, ⟨sink, hw, rfl⟩, hf, rfl, rfl⟩
    · exact .pra hw
    · exact .flush hw hf
  | call a =>
    by_cases hpc : m.pc + 2 < Memory.size
    · by_cases hsp : m.reg Reg.sp = 0
      · simp only [Machine.act, if_pos hpc, Machine.push, if_pos hsp,
          Outcome.fails_stopped] at h
        obtain ⟨rfl, rfl⟩ := h
        exact .callFull a hpc hsp
      · simp [Machine.act, hpc, Machine.push_of_ne_zero _ hsp] at h
    · simp only [Machine.act, hpc, ↓reduceIte,
        Outcome.fails_stopped] at h
      obtain ⟨rfl, rfl⟩ := h
      exact .callEnd a (Nat.le_of_not_lt hpc)
  | ret =>
    by_cases hsp : m.reg Reg.sp = 255
    · simp only [Machine.act, Machine.pop, if_pos hsp, Outcome.fails_stopped] at h
      obtain ⟨rfl, rfl⟩ := h
      exact .ret hsp
    · simp [Machine.act, Machine.pop_of_ne_last hsp] at h
  | int a =>
    simp only [Machine.act] at h
    split at h
    · exact (Outcome.not_fails_done h).elim
    · next hn =>
      obtain ⟨rfl, rfl⟩ := Outcome.fails_stopped.1 h
      exact .int a (Nat.le_of_not_lt hn)
  | iret => exact .iret (Machine.fails_interruptReturn.1 h)
  | _ => exact (Outcome.not_fails_done h).elim

theorem iff_fails_execute {m m' : Machine} {i : Instruction} {f : Fault} :
    Refusal m i f m' ↔ (m.execute i).Fails f m' :=
  ⟨fails_execute, of_fails_execute⟩

end Refusal

end ByteMachine
