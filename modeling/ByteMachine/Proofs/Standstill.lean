import ByteMachine.Proofs.Cycle

/-! Faults of instructions other than a return from an interrupt. They leave the machine stopped and
otherwise as it was; only the sink may have taken some of the output. -/

namespace ByteMachine

namespace Machine

/-- The bytes that the instruction puts out. -/
def output (m : Machine) : Instruction → List Byte
  | .prn a => Text.utf8 (numberText (m.reg a))
  | .pra a => Text.utf8 (characterText (m.reg a))
  | _ => []

theorem withSink_extend_nil (m : Machine) : { m with sink := m.sink.extend [] } = m := by
  simp [Sink.extend]

theorem reg_is_poll (m : Machine) (tick : Bool) :
    (m.poll tick).reg Reg.is =
      if tick then m.reg Reg.is ||| Byte.bit timerInterrupt else m.reg Reg.is := by
  cases tick with
  | false => rfl
  | true => exact m.reg_setReg_self Reg.is _

end Machine

/-- A refused instruction leaves the machine alone, apart from the sink of one that prints. -/
theorem Refusal.exists_eq_withSink {m m' : Machine} {i : Instruction} {f : Fault}
    (h : Refusal m i f m') (hret : i ≠ .iret) :
    ∃ taken, taken <+: m.output i ∧ m' = { m with sink := m.sink.extend taken } := by
  have hnone : ∃ taken, taken <+: m.output i ∧ m = { m with sink := m.sink.extend taken } :=
    ⟨[], List.nil_prefix, m.withSink_extend_nil.symm⟩
  cases h with
  | @prn a sink cause hw | @pra a sink cause hw =>
    obtain ⟨taken, hprefix, hwrite⟩ := m.sink.exists_write_eq_extend (m.output _)
    exact ⟨taken, hprefix, by rw [← hwrite, Machine.output, hw]⟩
  | @flush a sink hw hf =>
    obtain ⟨taken, hprefix, hwrite⟩ := m.sink.exists_write_eq_extend (m.output (.pra a))
    exact ⟨taken, hprefix, by rw [← hwrite, Machine.output, hw]⟩
  | iret => exact absurd rfl hret
  | _ => exact hnone

namespace Attempt

/-- The bytes that the instruction at the program counter puts out. -/
def output (a : Attempt) : List Byte :=
  match a.polled.fetch with
  | .ok i => a.polled.output i
  | .error _ => []

/-- The step stopped the machine and left the rest as it was. A tick is recorded in the status
register, and the sink may have taken some of the output. -/
structure Fruitless (a : Attempt) : Prop where
  memory : a.after.memory = a.before.memory
  pc : a.after.pc = a.before.pc
  flags : a.after.regs.flags = a.before.regs.flags
  reg : ∀ r, r ≠ Reg.is → a.after.reg r = a.before.reg r
  is : a.after.reg Reg.is =
    if a.tick then a.before.reg Reg.is ||| Byte.bit Machine.timerInterrupt
    else a.before.reg Reg.is
  savedMask : a.after.savedMask = a.before.savedMask
  running : a.after.running = false
  sink : ∃ taken, taken <+: a.output ∧ a.after.sink = a.before.sink.extend taken

theorem exists_after_eq {a : Attempt} {f : Fault} (hp : a.before.pending? = none)
    (hret : ¬a.Executes .iret) (hf : a.fault = some f) :
    ∃ taken, taken <+: a.output ∧
      a.after = { a.polled with sink := a.polled.sink.extend taken }.halt := by
  cases a.course with
  | dispatch n hn => cases hp.symm.trans hn
  | unread g _ _ _ hafter =>
    exact ⟨[], List.nil_prefix, by rw [hafter, Machine.withSink_extend_nil]⟩
  | executed i _ hnone _ => cases hf.symm.trans hnone
  | refused i g m he _ hrefused hafter =>
    have hne : i ≠ .iret := by
      rintro rfl
      exact hret he
    obtain ⟨taken, hprefix, rfl⟩ := hrefused.exists_eq_withSink hne
    exact ⟨taken, by rwa [output, he.2], hafter⟩

/-- A step that meets a fault while it executes anything but a return from an interrupt, or finds
nothing to execute, is fruitless. -/
theorem fruitless_of_fault {a : Attempt} {f : Fault} (hp : a.before.pending? = none)
    (hret : ¬a.Executes .iret) (hf : a.fault = some f) : a.Fruitless := by
  obtain ⟨taken, hprefix, hafter⟩ := exists_after_eq hp hret hf
  refine ⟨?_, ?_, ?_, ?_, ?_, ?_, ?_, taken, hprefix, ?_⟩
  · rw [hafter]
    exact Machine.memory_poll _ _
  · rw [hafter]
    exact Machine.pc_poll _ _
  · rw [hafter]
    exact Machine.flags_poll _ _
  · intro r his
    rw [hafter]
    exact Machine.reg_poll_of_ne _ _ his
  · rw [hafter]
    exact Machine.reg_is_poll _ _
  · rw [hafter]
    exact Machine.savedMask_poll _ _
  · rw [hafter]
    rfl
  · rw [hafter]
    exact congrArg (Sink.extend · taken) (Machine.sink_poll _ _)

end Attempt

/-- Prints the number 200 into a sink that takes two bytes, while the timer ticks. -/
def crowded : Attempt :=
  let m := (Machine.fresh ⟨some 2, true, #[], 0⟩).patch
    [(0, 0x82), (1, 1), (2, 200), (3, 0x47), (4, 1)]
  ⟨m.stepAll [false], true⟩

theorem fruitless_crowded :
    crowded.before.pending? = none ∧ ¬crowded.Executes .iret ∧
      crowded.fault = some (.output .full) ∧ crowded.Fruitless ∧
      crowded.after.sink.written = #[0x32, 0x30] :=
  have hp : crowded.before.pending? = none := by decide +kernel
  have hret : ¬crowded.Executes .iret := by decide +kernel
  have hf : crowded.fault = some (.output .full) := by decide +kernel
  ⟨hp, hret, hf, Attempt.fruitless_of_fault hp hret hf, by decide +kernel⟩

end ByteMachine
