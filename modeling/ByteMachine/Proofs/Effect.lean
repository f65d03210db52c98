import ByteMachine.Machine.Cycle

/-! What each instruction does when it goes through. `Effect` is the account of it by rules, one for
each way to succeed, and agrees with execution. -/

namespace ByteMachine

namespace Outcome

/-- The work went through and left the machine `m`. -/
def Yields (o : Outcome) (m : Machine) : Prop := o.fault = none ∧ o.machine = m

@[simp] theorem yields_done {m m' : Machine} : (done m).Yields m' ↔ m' = m := by
  simp [Yields, done, eq_comm]

@[simp] theorem not_yields_stopped {m m' : Machine} {fault : Fault} :
    ¬(stopped m fault).Yields m' := by
  simp [Yields, stopped]

@[simp] theorem yields_after {event : Event} {o : Outcome} {m : Machine} :
    (after event o).Yields m ↔ o.Yields m :=
  Iff.rfl

@[simp] theorem yields_andThen {o : Outcome} {next : Machine → Outcome} {m : Machine} :
    (o.andThen next).Yields m ↔ ∃ m₁, o.Yields m₁ ∧ (next m₁).Yields m := by
  obtain ⟨m₀, _ | fault, events⟩ := o
  · simp [andThen, Yields]
  · simp [andThen, Yields]

end Outcome

namespace Machine

/-- The machine after a handler's return: a mask that was put aside is the mask again. -/
def unmask (m : Machine) : Machine :=
  match m.savedMask with
  | some mask => { m with savedMask := none }.setReg Reg.im mask
  | none => m

theorem yields_print {m m' : Machine} {text : List Char} :
    (m.print text).Yields m' ↔
      ∃ sink, m.sink.write (Text.utf8 text) = (sink, none) ∧ m' = { m with sink := sink } := by
  unfold print
  split
  · next sink h => simp [h]
  · next sink cause h => simp [h]

theorem yields_flush {m m' : Machine} :
    m.flush.Yields m' ↔ m.sink.flushable ∧ m' = { m with sink := m.sink.flush.1 } := by
  cases h : m.sink.flushable <;> simp [flush, Sink.flush, h]

theorem yields_interruptReturn {m m' : Machine} :
    m.interruptReturn.Yields m' ↔
      ∃ m₁, m.popAll Slot.frame.reverse = (m₁, none) ∧ m' = m₁.unmask := by
  unfold interruptReturn
  split
  · next h => simp [h]
  · next m₁ h => cases hm : m₁.savedMask <;> simp [h, hm, unmask]

/-- An instruction goes through if what it does itself goes through. -/
theorem yields_execute {m m' : Machine} {i : Instruction} :
    (m.execute i).Yields m' ↔ ∃ m₁, (m.act i).Yields m₁ ∧ m' = m₁.goBehind i := by
  rw [execute, Outcome.yields_andThen]
  simp only [Outcome.yields_done]

end Machine

/-- `Effect m i m'`: the instruction `i` goes through on the machine `m` and leaves `m'`. -/
inductive Effect (m : Machine) : Instruction → Machine → Prop where
  | unary (op : UnaryOp) (a : Reg) :
    Effect m (.unary op a) ((m.setReg a (op.apply (m.reg a))).goto (m.pc + 2))
  | value {op : BinaryOp} {a b : Reg} {v : Byte} :
    op.apply (m.reg a) (m.reg b) = .ok (.value v) →
      Effect m (.binary op a b) ((m.setReg a v).goto (m.pc + 3))
  | flags {op : BinaryOp} {a b : Reg} {f : Byte} :
    op.apply (m.reg a) (m.reg b) = .ok (.flags f) →
      Effect m (.binary op a b) ((m.setFlags f).goto (m.pc + 3))
  | nop : Effect m .nop (m.goto (m.pc + 1))
  | hlt : Effect m .hlt (m.halt.goto (m.pc + 1))
  | ldi (a : Reg) (v : Byte) : Effect m (.ldi a v) ((m.setReg a v).goto (m.pc + 3))
  | ld (a b : Reg) :
    Effect m (.ld a b) ((m.setReg a (m.memory.load (m.reg b))).goto (m.pc + 3))
  | st (a b : Reg) : Effect m (.st a b) ((m.store (m.reg a) (m.reg b)).goto (m.pc + 3))
  | push (a : Reg) : m.reg Reg.sp ≠ 0 →
    Effect m (.push a) (((m.setReg Reg.sp (m.reg Reg.sp - 1)).store (m.reg Reg.sp - 1)
      (m.reg a)).goto (m.pc + 2))
  | pop (a : Reg) : m.reg Reg.sp ≠ 255 →
    Effect m (.pop a) (((m.setReg Reg.sp (m.reg Reg.sp + 1)).setReg a
      (m.memory.load (m.reg Reg.sp))).goto (m.pc + 2))
  | prn {a : Reg} {sink : Sink} :
    m.sink.write (Text.utf8 (Machine.numberText (m.reg a))) = (sink, none) →
      Effect m (.prn a) ({ m with sink := sink }.goto (m.pc + 2))
  | pra {a : Reg} {sink : Sink} :
    m.sink.write (Text.utf8 (Machine.characterText (m.reg a))) = (sink, none) →
      sink.flushable → Effect m (.pra a) ({ m with sink := sink.flush.1 }.goto (m.pc + 2))
  | call (a : Reg) : m.pc + 2 < Memory.size → m.reg Reg.sp ≠ 0 →
    Effect m (.call a) (((m.setReg Reg.sp (m.reg Reg.sp - 1)).store (m.reg Reg.sp - 1)
      (BitVec.ofNat 8 (m.pc + 2))).goto (m.reg a).toNat)
  | ret : m.reg Reg.sp ≠ 255 →
    Effect m .ret ((m.setReg Reg.sp (m.reg Reg.sp + 1)).goto (m.memory.load (m.reg Reg.sp)).toNat)
  | int {a : Reg} (n : Fin 8) : (m.reg a).toNat = n →
    Effect m (.int a) ((m.request n).goto (m.pc + 2))
  | iret {m₁ : Machine} : m.popAll Slot.frame.reverse = (m₁, none) → Effect m .iret m₁.unmask
  | jump (c : Condition) (a : Reg) : Effect m (.jump c a) (m.goto (m.reg a).toNat)
  | skip (c : Condition) : Effect m (.skip c) (m.goto (m.pc + 2))

namespace Effect

theorem yields_execute {m m' : Machine} {i : Instruction} (h : Effect m i m') :
    (m.execute i).Yields m' := by
  simp only [Machine.yields_execute, Machine.goBehind_eq]
  cases h with
  | value h | flags h => exact ⟨_, by simp [Machine.act, h], rfl⟩
  | push a h => exact ⟨_, by simp [Machine.act, Machine.push_of_ne_zero _ h], rfl⟩
  | pop a h => exact ⟨_, by simp [Machine.act, Machine.pop_of_ne_last h], rfl⟩
  | prn h => exact ⟨_, Machine.yields_print.2 ⟨_, h, rfl⟩, rfl⟩
  | pra h hf =>
    exact ⟨_, Outcome.yields_andThen.2
      ⟨_, Machine.yields_print.2 ⟨_, h, rfl⟩, Machine.yields_flush.2 ⟨hf, rfl⟩⟩, rfl⟩
  | call a hpc hsp => exact ⟨_, by simp [Machine.act, Machine.push_of_ne_zero _ hsp, hpc], rfl⟩
  | ret h => exact ⟨_, by simp [Machine.act, Machine.pop_of_ne_last h], rfl⟩
  | int n h => exact ⟨_, by simp [Machine.act, h], rfl⟩
  | iret h => exact ⟨_, Machine.yields_interruptReturn.2 ⟨_, h, rfl⟩, rfl⟩
  | _ => exact ⟨_, Outcome.yields_done.2 rfl, rfl⟩

theorem of_yields_execute {m m' : Machine} {i : Instruction} (h : (m.execute i).Yields m') :
    Effect m i m' := by
  obtain ⟨m₁, hact, rfl⟩ := Machine.yields_execute.1 h
  rw [Machine.goBehind_eq]
  cases i with
  | binary op a b =>
    simp only [Machine.act] at hact
    split at hact
    · next v hv => exact Outcome.yields_done.1 hact ▸ .value hv
    · next f hf => exact Outcome.yields_done.1 hact ▸ .flags hf
    · exact (Outcome.not_yields_stopped hact).elim
  | push a =>
    by_cases hsp : m.reg Reg.sp = 0
    · simp [Machine.act, Machine.push, hsp] at hact
    · simp only [Machine.act, Machine.push_of_ne_zero _ hsp, Outcome.yields_done] at hact
      exact hact ▸ .push a hsp
  | pop a =>
    by_cases hsp : m.reg Reg.sp = 255
    · simp [Machine.act, Machine.pop, hsp] at hact
    · simp only [Machine.act, Machine.pop_of_ne_last hsp, Outcome.yields_done] at hact
      exact hact ▸ .pop a hsp
  | prn a =>
    obtain ⟨sink, hs, rfl⟩ := Machine.yields_print.1 hact
    exact .prn hs
  | pra a =>
    obtain ⟨_, hprint, hflush⟩ := Outcome.yields_andThen.1 hact
    obtain ⟨sink, hs, rfl⟩ := Machine.yields_print.1 hprint
    obtain ⟨hf, rfl⟩ := Machine.yields_flush.1 hflush
    exact .pra hs hf
  | call a =>
    by_cases hpc : m.pc + 2 < Memory.size
    · by_cases hsp : m.reg Reg.sp = 0
      · simp [Machine.act, Machine.push, hpc, hsp] at hact
      · simp only [Machine.act, if_pos hpc, Machine.push_of_ne_zero _ hsp,
          Outcome.yields_done] at hact
        exact hact ▸ .call a hpc hsp
    · simp [Machine.act, hpc] at hact
  | ret =>
    by_cases hsp : m.reg Reg.sp = 255
    · simp [Machine.act, Machine.pop, hsp] at hact
    · simp only [Machine.act, Machine.pop_of_ne_last hsp, Outcome.yields_done] at hact
      exact hact ▸ .ret hsp
  | int a =>
    simp only [Machine.act] at hact
    split at hact
    · next hn => exact Outcome.yields_done.1 hact ▸ .int ⟨_, hn⟩ rfl
    · exact (Outcome.not_yields_stopped hact).elim
  | iret =>
    obtain ⟨m₁, hp, rfl⟩ := Machine.yields_interruptReturn.1 hact
    exact .iret hp
  | hlt =>
    simp only [Machine.act, Outcome.yields_after, Outcome.yields_done] at hact
    exact hact ▸ .hlt
  | _ =>
    obtain rfl := Outcome.yields_done.1 hact
    constructor

theorem iff_yields_execute {m m' : Machine} {i : Instruction} :
    Effect m i m' ↔ (m.execute i).Yields m' :=
  ⟨yields_execute, of_yields_execute⟩

end Effect

end ByteMachine
