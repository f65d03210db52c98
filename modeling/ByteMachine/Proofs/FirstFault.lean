import ByteMachine.Proofs.Cycle
import ByteMachine.Proofs.Check

/-! A step fails as its checks do: the first one that fails decides the fault, and if all pass no
fault is met. Only the output has faults of its own. -/

namespace ByteMachine

namespace Machine

variable {m : Machine}

theorem Encodes.argument {i : Instruction} {k : Nat} {r : Reg} (h : m.Encodes i)
    (hr : i.named[k]? = some r) : m.argument (k + 1) = m.reg r := by
  have hcode := h.named k r hr
  simp [Machine.argument, Reg.ofNat?, hcode]

/-- The fault of the output of an instruction that passes all checks. -/
def printFault? (m : Machine) : Instruction → Option Fault
  | .prn a => (m.print (numberText (m.reg a))).fault
  | .pra a => ((m.print (characterText (m.reg a))).andThen flush).fault
  | _ => none

end Machine

theorem Outcome.fault_andThen (o : Outcome) (next : Machine → Outcome) :
    (o.andThen next).fault = o.fault.or (next o.machine).fault := by
  obtain ⟨m, _ | f, events⟩ := o <;> rfl

theorem Outcome.fault_andThen_done (o : Outcome) (next : Machine → Machine) :
    (o.andThen fun m => done (next m)).fault = o.fault := by
  rw [fault_andThen]
  exact Option.or_none

namespace Machine

variable {m : Machine}

theorem fault_interruptReturn (m : Machine) :
    m.interruptReturn.fault =
      if 246 < (m.reg Reg.sp).toNat then some .stackUnderflow else none := by
  have hfree : .reg Reg.sp ∉ Slot.frame.reverse := by decide
  have hpop := m.fault_popAll hfree
  have hleft : 255 < (m.reg Reg.sp).toNat + Slot.frame.reverse.length ↔
      246 < (m.reg Reg.sp).toNat := by
    rw [show Slot.frame.reverse.length = 9 from rfl]
    omega
  simp only [hleft] at hpop
  rw [← hpop, interruptReturn]
  split
  · next h => rw [h]; rfl
  · next m₁ h => cases hm : m₁.savedMask <;> simp [h, Outcome.after, Outcome.done]

theorem faultOf?_push (m : Machine) (v : Byte) :
    faultOf? (m.push v) = Check.first? [⟨m.reg Reg.sp = 0, .stackOverflow⟩] := by
  rw [Check.first?_cons]
  by_cases hsp : m.reg Reg.sp = 0
  · simp [push, hsp, faultOf?]
  · simpa [push_of_ne_zero v hsp, faultOf?] using hsp

theorem faultOf?_pop (m : Machine) :
    faultOf? m.pop = Check.first? [⟨m.reg Reg.sp = 255, .stackUnderflow⟩] := by
  rw [Check.first?_cons]
  by_cases hsp : m.reg Reg.sp = 255
  · simp [pop, hsp, faultOf?]
  · simpa [pop_of_ne_last hsp, faultOf?] using hsp

theorem fault_act_call {a : Reg} (h : m.pc + 2 ≤ Memory.size) :
    (m.act (.call a)).fault = Check.first? (m.effectChecks (.control .call)) := by
  by_cases hpc : m.pc = 254
  · simp [act, effectChecks, Check.first?_cons, hpc, Outcome.stopped]
  · have hlt : m.pc + 2 < Memory.size := by
      have hsize : Memory.size = 256 := rfl
      omega
    have hpush : (m.act (.call a)).fault = faultOf? (m.push (BitVec.ofNat 8 (m.pc + 2))) := by
      simp only [act, hlt, ↓reduceIte]
      cases m.push (BitVec.ofNat 8 (m.pc + 2)) <;> rfl
    rw [hpush, faultOf?_push, effectChecks, Check.first?_cons ⟨decide (m.pc = 254), _⟩]
    simp [hpc]

theorem fault_act_int {a : Reg} (h : m.Encodes (.int a)) :
    (m.act (.int a)).fault = Check.first? (m.effectChecks (.control .int)) := by
  have ha : m.argument 1 = m.reg a := h.argument (k := 0) rfl
  rw [act, effectChecks, Check.first?_cons, ha]
  split
  · next hn => simp [Nat.not_lt.2 (Nat.le_of_lt_succ hn), Outcome.done]
  · next hn => simp [Nat.lt_of_succ_le (Nat.le_of_not_lt hn), Outcome.stopped]

theorem fault_act_binary {op : BinaryOp} {a b : Reg} (h : m.Encodes (.binary op a b)) :
    (m.act (.binary op a b)).fault =
      Check.first? (m.effectChecks (.alu (.binary op))) := by
  have hb : m.argument 2 = m.reg b := h.argument (k := 1) rfl
  have happly : (m.act (.binary op a b)).fault =
      faultOf? (op.apply (m.reg a) (m.reg b)) := by
    rw [act]
    rcases op.apply (m.reg a) (m.reg b) with f | v | f <;> rfl
  rw [happly]
  cases op with
  | div | mod =>
    rw [effectChecks, Check.first?_cons, hb, BinaryOp.apply]
    split
    · next hzero => simp [hzero, faultOf?]
    · next hzero => simpa [faultOf?] using hzero
  | _ => rfl

theorem fault_act {i : Instruction} (h : m.Encodes i) :
    (m.act i).fault =
      (Check.first? (m.effectChecks i.operation)).or (m.printFault? i) := by
  cases i with
  | binary op a b => exact (fault_act_binary h).trans Option.or_none.symm
  | push a =>
    have hpush : (m.act (.push a)).fault = faultOf? (m.push (m.reg a)) := by
      rw [act]
      cases m.push (m.reg a) <;> rfl
    exact (hpush.trans (faultOf?_push m _)).trans Option.or_none.symm
  | pop a =>
    have hpop : (m.act (.pop a)).fault = faultOf? m.pop := by
      rw [act]
      cases m.pop <;> rfl
    exact (hpop.trans (faultOf?_pop m)).trans Option.or_none.symm
  | ret =>
    have hpop : (m.act .ret).fault = faultOf? m.pop := by
      rw [act]
      cases m.pop <;> rfl
    exact (hpop.trans (faultOf?_pop m)).trans Option.or_none.symm
  | prn a | pra a => exact Option.none_or.symm
  | call a => exact (fault_act_call h.inside).trans Option.or_none.symm
  | int a => exact (fault_act_int h).trans Option.or_none.symm
  | iret =>
    have hchecks : Check.first? (m.effectChecks (.control .iret)) =
        if 246 < (m.reg Reg.sp).toNat then some .stackUnderflow else none := by
      simp [effectChecks, Check.first?_cons]
    exact ((fault_interruptReturn m).trans hchecks.symm).trans Option.or_none.symm
  | _ => rfl

/-- An instruction with its operands read fails as the checks of its effect and its output do. -/
theorem fault_execute {i : Instruction} (h : m.Encodes i) :
    (m.execute i).fault =
      (Check.first? (m.effectChecks i.operation)).or (m.printFault? i) :=
  (Outcome.fault_andThen_done (m.act i) (·.goBehind i)).trans (fault_act h)

theorem fetch_of_decode {op : Operation} (hpc : m.pc < Memory.size)
    (hd : Operation.decode (m.code 0) = some op) : m.fetch = m.instruction op := by
  rw [fetch, operand_of_lt (k := 0) hpc]
  simp only [bind, Except.bind, hd]

/-- The fault of the output of the instruction at the program counter. -/
def outputFault? (m : Machine) : Option Fault :=
  match m.fetch with
  | .ok i => m.printFault? i
  | .error _ => none

theorem fault_executeNext (m : Machine) :
    m.executeNext.fault = (Check.first? m.instructionChecks).or m.outputFault? := by
  rw [executeNext, instructionChecks, Check.first?_cons, outputFault?]
  by_cases hpc : m.pc < Memory.size
  · have hin : m.pcCheck.fails = false := by simpa [pcCheck] using hpc
    rw [hin, if_neg Bool.false_ne_true]
    cases hd : Operation.decode (m.code 0) with
    | none =>
      have hfetch : m.fetch = .error (.unsupportedOperation (m.code 0)) := by
        rw [fetch, operand_of_lt (k := 0) hpc]
        simp only [bind, Except.bind, hd]
      rw [hfetch]
      rfl
    | some op =>
      -- The checks of the effect count only once those of the operands have passed.
      have hoperands := faultOf?_instruction hpc op
      rw [fetch_of_decode hpc hd]
      cases hi : m.instruction op with
      | ok i =>
        have henc := encodes_of_instruction hd hpc hi
        have hop : i.operation = op := Option.some.inj (henc.operation.symm.trans hd)
        rw [hi] at hoperands
        have hnone : Check.first? (if m.skips op then [] else m.operandChecks op) = none := by
          rw [apply_ite Check.first?]
          exact hoperands.symm
        rw [Check.first?_append, hnone, ← hop]
        exact fault_execute henc
      | error f =>
        rw [hi] at hoperands
        have hsome : Check.first? (if m.skips op then [] else m.operandChecks op) = some f := by
          rw [apply_ite Check.first?]
          exact hoperands.symm
        rw [Check.first?_append, hsome]
        rfl
  · have hout : m.pcCheck.fails = true := by simpa [pcCheck] using hpc
    have hfetch : m.fetch = .error (.outOfBounds m.pc) := by
      rw [fetch, operand_of_le (k := 0) (Nat.le_of_not_lt hpc)]
      rfl
    rw [hout, hfetch]
    rfl

theorem fault_dispatch (n : Fin 8) (m : Machine) :
    (m.dispatch n).fault = Check.first? m.dispatchChecks := by
  have hpush := (m.acknowledge n).fault_pushAll (Slot.frame.map (Slot.get (m.acknowledge n).regs))
  have hsp : (m.acknowledge n).reg Reg.sp = m.reg Reg.sp := reg_acknowledge m n Reg.sp
  have hpc : (m.acknowledge n).pc = m.pc := rfl
  rw [List.length_map, hsp] at hpush
  simp only [dispatch, Outcome.after, dispatchChecks, Check.first?_cons, Check.first?_nil, pcCheck,
    decide_eq_true_eq, hpc]
  by_cases hlt : m.pc < Memory.size
  · rw [if_pos hlt, if_neg (Nat.not_le.2 hlt)]
    refine Eq.trans ?_ hpush
    split
    · next m₁ h => rw [h]; rfl
    · next m₁ f h => rw [h]; rfl
  · rw [if_neg hlt, if_pos (Nat.le_of_not_lt hlt)]
    rfl

theorem pending?_eq_none_iff :
    m.pending? = none ↔ ¬(m.savedMask = none ∧ m.reg Reg.im &&& m.reg Reg.is ≠ 0) := by
  unfold pending?
  cases m.savedMask with
  | none => simp [Byte.lowest?_eq_none_iff]
  | some mask => simp

/-- A step meets the fault of the first check that fails, or else that of its output. -/
theorem fault_step (tick : Bool) (m : Machine) :
    (m.step tick).fault = (Check.first? (m.checks tick)).or
      (if m.pending? = none then (m.poll tick).outputFault? else none) := by
  have hstep : (m.step tick).fault = (m.cycle tick).fault := by
    unfold step
    cases h : (m.cycle tick).fault <;> simp [h]
  rw [hstep, checks, cycle]
  by_cases hp : m.pending? = none
  · rw [if_neg (pending?_eq_none_iff.1 hp), if_pos hp, hp]
    exact fault_executeNext _
  · obtain ⟨n, hn⟩ := Option.ne_none_iff_exists'.1 hp
    rw [if_pos (Decidable.not_not.1 fun h => hp (pending?_eq_none_iff.2 h)), if_neg hp, hn,
      Option.or_none]
    exact fault_dispatch n m

/-- If the check fails, then not for want of an operand, and an address that it names is that of the
counter, or where the counter is inside, the first one past memory. -/
def Accurate (m : Machine) (c : Check) : Prop :=
  c.fails → c.fault ≠ .missingOperand ∧
    ∀ addr, c.fault = .outOfBounds addr → addr = max m.pc Memory.size

theorem accurate_pcCheck (m : Machine) : m.Accurate m.pcCheck := by
  intro h
  have hle : Memory.size ≤ m.pc := by simpa [pcCheck] using h
  simp [pcCheck, Nat.max_eq_left hle]

theorem accurate_operandCheck (m : Machine) (k : Nat) : m.Accurate (m.operandCheck k) := by
  intro h
  have heq : m.pc + k = Memory.size := by simpa [operandCheck] using h
  simp only [operandCheck, ne_eq, reduceCtorEq, not_false_eq_true, Fault.outOfBounds.injEq,
    true_and]
  omega

theorem accurate_registerCheck (m : Machine) (k : Nat) : m.Accurate (m.registerCheck k) := by
  simp [Accurate, registerCheck]

theorem accurate_operandChecks (m : Machine) (op : Operation) :
    ∀ c ∈ m.operandChecks op, m.Accurate c := by
  unfold operandChecks
  split
  · simp
  · simp [accurate_operandCheck, accurate_registerCheck]
  · split <;> simp [accurate_operandCheck, accurate_registerCheck]

theorem accurate_effectChecks (m : Machine) (op : Operation) :
    ∀ c ∈ m.effectChecks op, m.Accurate c := by
  rcases op with (op | op) | op
  · simp [effectChecks]
  · cases op <;> simp [effectChecks, Accurate]
  · cases op with
    | call =>
      have hmax : m.pc = 254 → Memory.size = max m.pc Memory.size := by
        intro hpc
        rw [hpc]
        rfl
      simpa [effectChecks, Accurate] using hmax
    | _ => simp [effectChecks, Accurate]

theorem accurate_instructionChecks (m : Machine) :
    ∀ c ∈ m.instructionChecks, m.Accurate c := by
  unfold instructionChecks
  refine List.forall_mem_cons.2 ⟨accurate_pcCheck m, ?_⟩
  split
  · simp [Accurate]
  · next op _ =>
    intro c hc
    rcases List.mem_append.1 hc with hc | hc
    · split at hc
      · cases hc
      · exact accurate_operandChecks m op c hc
    · exact accurate_effectChecks m op c hc

theorem accurate_checks (tick : Bool) (m : Machine) : ∀ c ∈ m.checks tick, m.Accurate c := by
  unfold checks
  split
  · exact List.forall_mem_cons.2 ⟨accurate_pcCheck m, by simp [Accurate]⟩
  · intro c hc
    have hpolled := accurate_instructionChecks (m.poll tick) c hc
    rwa [Accurate, pc_poll] at hpolled

theorem output_of_outputFault? {f : Fault} (h : m.outputFault? = some f) :
    ∃ cause, f = .output cause := by
  have hprint {text : List Char} {g : Fault} (hg : (m.print text).fault = some g) :
      ∃ cause, g = .output cause := by
    obtain ⟨_, cause, -, rfl, -⟩ := fails_print.1 ⟨hg, rfl⟩
    exact ⟨cause, rfl⟩
  unfold outputFault? at h
  split at h
  · next i _ =>
    cases i with
    | prn a => exact hprint h
    | pra a =>
      rw [printFault?, Outcome.fault_andThen, Option.or_eq_some_iff] at h
      rcases h with h | ⟨-, h⟩
      · exact hprint h
      · exact ⟨.flushFailed, (fails_flush.1 ⟨h, rfl⟩).2.1⟩
    | _ => cases h
  · cases h

/-- A fault that is not one of the output is that of a check. -/
theorem exists_check_of_fault {tick : Bool} {f : Fault} (h : (m.step tick).fault = some f)
    (hf : ∀ cause, f ≠ .output cause) : ∃ c ∈ m.checks tick, c.fails ∧ c.fault = f := by
  rw [fault_step, Option.or_eq_some_iff] at h
  rcases h with h | ⟨-, h⟩
  · exact Check.exists_of_first? h
  · split at h
    · obtain ⟨cause, hcause⟩ := output_of_outputFault? h
      exact absurd hcause (hf cause)
    · cases h

theorem addr_of_outOfBounds {tick : Bool} {addr : Nat}
    (h : (m.step tick).fault = some (.outOfBounds addr)) : addr = max m.pc Memory.size := by
  obtain ⟨c, hc, hfails, hfault⟩ := exists_check_of_fault h fun _ => nofun
  exact (accurate_checks tick m c hc hfails).2 addr hfault

theorem ne_missingOperand (tick : Bool) (m : Machine) :
    (m.step tick).fault ≠ some .missingOperand := by
  intro h
  obtain ⟨c, hc, hfails, hfault⟩ := exists_check_of_fault h fun _ => nofun
  exact (accurate_checks tick m c hc hfails).1 hfault

end Machine

/-- The sink takes whatever is written to it, and can be flushed after that. -/
def Sink.Unfailing (s : Sink) : Prop :=
  ∀ bs, (s.write bs).2 = none ∧ (s.write bs).1.flush.2 = none

theorem Sink.unfailing_unbounded : Sink.unbounded.Unfailing := by
  intro bs
  rw [write_of_capacity_none rfl]
  exact ⟨rfl, rfl⟩

namespace Machine

theorem fault_print_of_unfailing {m : Machine} (h : m.sink.Unfailing) (text : List Char) :
    (m.print text).fault = none ∧ (m.print text).machine.flush.fault = none := by
  have hw := h (Text.utf8 text)
  unfold print
  split
  · next sink hsink =>
    rw [hsink] at hw
    refine ⟨rfl, ?_⟩
    simp only [flush, Outcome.done]
    split
    · rfl
    · next hflush => cases (congrArg Prod.snd hflush).symm.trans hw.2
  · next hsink => cases (congrArg Prod.snd hsink).symm.trans hw.1

theorem outputFault?_of_unfailing {m : Machine} (h : m.sink.Unfailing) :
    m.outputFault? = none := by
  unfold outputFault?
  split
  · next i _ =>
    cases i with
    | prn a => exact (fault_print_of_unfailing h _).1
    | pra a =>
      have hprint := fault_print_of_unfailing h (characterText (m.reg a))
      rw [printFault?, Outcome.fault_andThen, hprint.1, hprint.2]
      rfl
    | _ => rfl
  · rfl

/-- If the sink takes all output, a step meets a fault exactly if a check fails, and then that of the
first check that does. An operation is never short of an operand: its opcode tells of two wherever
it takes two. -/
theorem fault_step_eq_first {m : Machine} (h : m.sink.Unfailing) (tick : Bool) :
    (m.step tick).fault = Check.first? (m.checks tick) ∧
      (m.step tick).fault ≠ some .missingOperand ∧
      ∀ (op : AluOp) (a b : Byte),
        op.apply a (if 1 < Opcode.operandCount (Operation.alu op).opcode then some b else none) ≠
          .error .missingOperand := by
  refine ⟨?_, ne_missingOperand tick m, ?_⟩
  · have hpolled : (m.poll tick).outputFault? = none :=
      outputFault?_of_unfailing (by rwa [sink_poll])
    rw [fault_step, hpolled, ite_self, Option.or_none]
  · intro op a b
    cases op with
    | unary op => exact nofun
    | binary op =>
      have hcount : 1 < Opcode.operandCount (Operation.alu (.binary op)).opcode := by
        cases op <;> decide
      rw [if_pos hcount]
      intro herror
      cases (BinaryOp.apply_eq_error_iff.1 herror).2.2

end Machine

/-- A call at the end of memory, on a full stack and while the timer ticks. -/
def brink : Machine := (((Machine.fresh .unbounded).setReg Reg.sp 0).goto 254).patch
  [(254, 0x50), (255, 6)]

theorem fault_step_brink :
    brink.sink.Unfailing ∧ (brink.step true).fault = some (.outOfBounds 256) ∧
      brink.checks true = [⟨false, .outOfBounds 254⟩, ⟨false, .outOfBounds 256⟩,
        ⟨false, .invalidRegister 6⟩, ⟨true, .outOfBounds 256⟩, ⟨true, .stackOverflow⟩] := by
  have h : brink.sink.Unfailing := Sink.unfailing_unbounded
  have hchecks : brink.checks true = [⟨false, .outOfBounds 254⟩, ⟨false, .outOfBounds 256⟩,
      ⟨false, .invalidRegister 6⟩, ⟨true, .outOfBounds 256⟩, ⟨true, .stackOverflow⟩] := by
    decide +kernel
  refine ⟨h, ?_, hchecks⟩
  rw [(Machine.fault_step_eq_first h true).1, hchecks]
  rfl

end ByteMachine
