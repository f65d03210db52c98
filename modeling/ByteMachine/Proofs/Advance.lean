import ByteMachine.Proofs.Comparison

/-! How far the program counter goes. Two bits of the opcode tell how many operand bytes follow it.
That number decides which bytes are read, where the next instruction begins and which address a call
puts on the stack. -/

namespace ByteMachine

namespace Instruction

/-- The instruction takes the address at which the machine goes on from a register or the stack. -/
def transfers : Instruction → Bool
  | .call _ | .ret | .iret | .jump _ _ => true
  | _ => false

/-- The mark in the opcode stands for instructions that transfer control, and for two that only move
the counter past themselves. -/
theorem setsPc_iff (i : Instruction) :
    Opcode.setsPc i.operation.opcode = true ↔
      i.transfers = true ∨ (∃ a, i = .int a) ∨ ∃ k, i = .skip k := by
  show i.setsPc = true ↔ _
  rw [i.setsPc_eq]
  cases i <;> simp [transfers]

end Instruction

namespace Effect

variable {m m' : Machine} {i : Instruction}

theorem pc_of_not_transfers (h : Effect m i m') (hi : i.transfers = false) :
    m'.pc = m.pc + i.length := by
  rw [i.length_eq]
  cases h with
  | call | ret | iret | jump => cases hi
  | _ => rfl

theorem pc_of_call {a : Reg} (h : Effect m (.call a) m') : m'.pc = (m.reg a).toNat := by
  cases h
  rfl

theorem load_sp_of_call {a : Reg} (h : Effect m (.call a) m') :
    (m'.memory.load (m'.reg Reg.sp)).toNat = m.pc + 2 := by
  cases h with
  | call a hpc hsp => simp [Nat.mod_eq_of_lt hpc]

theorem pc_of_ret (h : Effect m .ret m') : m'.pc = (m.memory.load (m.reg Reg.sp)).toNat := by
  cases h
  rfl

/-- The counter is the last of the nine bytes that a return pops. -/
theorem pc_of_iret (h : Effect m .iret m') :
    m'.pc = (m.memory.load (m.reg Reg.sp + 8)).toNat := by
  obtain ⟨m₁, hp, rfl⟩ := h.exists_popped
  have hlast : Slot.frame.reverse[8]? = some .pc := rfl
  rw [Machine.pc_unmask, hp.pc_of_getElem? hlast]
  rfl

end Effect

namespace Machine

variable {m m' : Machine} {i : Instruction}

/-- The address behind the opcode at the program counter and the operand bytes of which it tells. -/
def following (m : Machine) : Nat := m.pc + 1 + Opcode.operandCount (m.code 0)

theorem Encodes.opcode (h : m.Encodes i) : m.code 0 = i.operation.opcode :=
  Operation.decode_eq_some_iff.1 h.operation

theorem Encodes.following (h : m.Encodes i) : m.following = m.pc + i.length := by
  rw [Machine.following, h.opcode, Instruction.length, Nat.add_assoc]

/-- Making an instruction looks at no operand past those of which the opcode tells. -/
theorem instruction_eq {op : Operation} (hflags : m'.regs.flags = m.regs.flags)
    (hread : ∀ k ≤ Opcode.operandCount op.opcode, m'.operand k = m.operand k) :
    m'.instruction op = m.instruction op := by
  have hreg (k : Nat) (hk : k ≤ Opcode.operandCount op.opcode) := operandReg_congr (hread k hk)
  rcases op with (op | op) | op
  · have hone : 1 ≤ Opcode.operandCount (Operation.alu (.unary op)).opcode := by
      cases op <;> decide
    rw [instruction, instruction, hreg 1 hone]
  · have htwo : 2 ≤ Opcode.operandCount (Operation.alu (.binary op)).opcode := by
      cases op <;> decide
    rw [instruction, instruction, hreg 1 (Nat.le_of_succ_le htwo), hreg 2 htwo]
  · cases op with
    | nop | hlt | ret | iret => rfl
    | push | pop | prn | pra | call | int => rw [instruction, instruction, hreg 1 (by decide)]
    | ld | st => rw [instruction, instruction, hreg 1 (by decide), hreg 2 (by decide)]
    | ldi => rw [instruction, instruction, hreg 1 (by decide), hread 2 (by decide)]
    | jump k =>
      have hone : 1 ≤ Opcode.operandCount (Operation.control (.jump k)).opcode := by
        cases k <;> decide
      rw [instruction, instruction, hflags, hreg 1 hone]

theorem fetch_eq (hflags : m'.regs.flags = m.regs.flags)
    (hread : ∀ k ≤ Opcode.operandCount (m.code 0), m'.operand k = m.operand k) :
    m'.fetch = m.fetch := by
  have hfirst : m'.operand 0 = m.operand 0 := hread 0 (Nat.zero_le _)
  rw [fetch, fetch, hfirst]
  by_cases hpc : m.pc < Memory.size
  · rw [operand_of_lt (k := 0) hpc]
    simp only [bind, Except.bind]
    cases hd : Operation.decode (m.code 0) with
    | none => rfl
    | some op =>
      rw [Operation.decode_eq_some_iff.1 hd] at hread
      exact instruction_eq hflags hread
  · rw [operand_of_le (k := 0) (Nat.le_of_not_lt hpc)]
    rfl

theorem mem_operandChecks {op : Operation} {c : Check} (hc : c ∈ m.operandChecks op) :
    (∃ k ≤ Opcode.operandCount op.opcode, c = m.operandCheck k) ∨
      ∃ k, c = m.registerCheck k := by
  unfold operandChecks at hc
  split at hc
  · cases hc
  · next hone =>
    simp only [List.mem_cons, List.not_mem_nil, or_false] at hc
    rcases hc with hc | hc
    · exact .inl ⟨1, Nat.le_of_eq hone.symm, hc⟩
    · exact .inr ⟨1, hc⟩
  · next hzero hone =>
    have htwo : 2 ≤ Opcode.operandCount op.opcode := by
      have hsome : Opcode.operandCount op.opcode ≠ 0 := hzero
      have hmore : Opcode.operandCount op.opcode ≠ 1 := hone
      omega
    simp only [List.mem_append, List.mem_cons, List.not_mem_nil, or_false] at hc
    rcases hc with (hc | hc | hc) | hc
    · exact .inl ⟨1, Nat.le_of_succ_le htwo, hc⟩
    · exact .inr ⟨1, hc⟩
    · exact .inl ⟨2, htwo, hc⟩
    · split at hc
      · cases hc
      · exact .inr ⟨2, List.mem_singleton.1 hc⟩

theorem addr_of_operandChecks {op : Operation} {c : Check} {addr : Nat}
    (hc : c ∈ m.operandChecks op) (hfails : c.fails) (hfault : c.fault = .outOfBounds addr) :
    m.pc ≤ addr ∧ addr ≤ m.pc + Opcode.operandCount op.opcode := by
  rcases mem_operandChecks hc with ⟨k, hk, rfl⟩ | ⟨k, rfl⟩
  · have hend : m.pc + k = Memory.size := of_decide_eq_true hfails
    obtain rfl : Memory.size = addr := Fault.outOfBounds.inj hfault
    omega
  · cases hfault

/-- Where memory ends before the instruction does, the fault names one of the bytes of which the
opcode tells. -/
theorem addr_of_fetch {addr : Nat} (h : m.fetch = .error (.outOfBounds addr)) :
    m.pc ≤ addr ∧ addr ≤ m.pc + Opcode.operandCount (m.code 0) := by
  by_cases hpc : m.pc < Memory.size
  · cases hd : Operation.decode (m.code 0) with
    | none =>
      rw [fetch, operand_of_lt (k := 0) hpc] at h
      simp [bind, Except.bind, hd] at h
    | some op =>
      rw [fetch_of_decode hpc hd] at h
      have hchecks := faultOf?_instruction hpc op
      rw [h] at hchecks
      split at hchecks
      · cases hchecks
      · obtain ⟨c, hc, hfails, hfault⟩ := Check.exists_of_first? hchecks.symm
        rw [Operation.decode_eq_some_iff.1 hd]
        exact addr_of_operandChecks hc hfails hfault
  · rw [fetch, operand_of_le (k := 0) (Nat.le_of_not_lt hpc)] at h
    obtain rfl : m.pc = addr := Fault.outOfBounds.inj (Except.error.inj h)
    exact ⟨Nat.le_refl _, Nat.le_add_right _ _⟩

end Machine

namespace Cycle

variable {c : Cycle} {i : Instruction}

/-- The cycle, which executes the instruction `i`, goes on as far as the opcode says, or where the
register that its operand names or the stack says. -/
structure Advances (c : Cycle) (i : Instruction) : Prop where
  opcode : c.before.pc < Memory.size ∧ c.before.code 0 = i.operation.opcode
  marked : Opcode.setsPc (c.before.code 0) = true ↔
    i.transfers = true ∨ (∃ a, i = .int a) ∨ ∃ k, i = .skip k
  next : i.transfers = false → c.after.pc = c.before.following
  jump : ∀ k r, i = .jump k r →
    (c.before.code 1).toNat = r ∧ c.after.pc = (c.polled.reg r).toNat
  call : ∀ r, i = .call r →
    (c.before.code 1).toNat = r ∧ c.after.pc = (c.polled.reg r).toNat ∧
      (c.after.memory.load (c.after.reg Reg.sp)).toNat = c.before.following
  ret : i = .ret → c.after.pc = (c.before.memory.load (c.before.reg Reg.sp)).toNat
  iret : i = .iret → c.after.pc = (c.before.memory.load (c.before.reg Reg.sp + 8)).toNat

theorem encodes_of_executes (h : c.Executes i) : c.before.Encodes i := by
  have henc := Machine.encodes_of_fetch h.2
  refine ⟨?_, ?_, ?_⟩
  · rw [← code_polled]
    exact henc.operation
  · rw [← c.pc_polled]
    exact henc.inside
  · intro k r hr
    rw [← code_polled]
    exact henc.named k r hr

theorem advances_of_executes (h : c.Executes i) : c.Advances i := by
  have henc := encodes_of_executes h
  have heffect := h.effect c.succeeds
  refine ⟨⟨?_, henc.opcode⟩, ?_, ?_, ?_, ?_, ?_, ?_⟩
  · exact Nat.lt_of_lt_of_le (Nat.lt_add_of_pos_right (Machine.fetched_pos i)) henc.inside
  · rw [henc.opcode]
    exact i.setsPc_iff
  · intro hi
    rw [heffect.pc_of_not_transfers hi, c.pc_polled, henc.following]
  · rintro k r rfl
    exact ⟨henc.named 0 r rfl, heffect.pc_of_jump⟩
  · rintro r rfl
    refine ⟨henc.named 0 r rfl, heffect.pc_of_call, ?_⟩
    rw [heffect.load_sp_of_call, c.pc_polled, henc.following, Instruction.length_eq]
  · rintro rfl
    rw [heffect.pc_of_ret, c.memory_polled, c.reg_sp_polled]
  · rintro rfl
    rw [heffect.pc_of_iret, c.memory_polled, c.reg_sp_polled]

end Cycle

/-- Every cycle that executes an instruction advances by the length that the opcode holds, unless it
transfers control, and a call pushes the address that far on. To fetch an instruction no byte is
looked at but the opcode and as many after it as it tells of. -/
theorem advances_by_opcode :
    (∀ (c : Cycle) (i : Instruction), c.Executes i → c.Advances i) ∧
      ∀ m : Machine,
        (∀ m' : Machine, m'.regs.flags = m.regs.flags →
          (∀ k ≤ Opcode.operandCount (m.code 0), m'.operand k = m.operand k) →
          m'.fetch = m.fetch) ∧
        ∀ addr, m.fetch = .error (.outOfBounds addr) →
          m.pc ≤ addr ∧ addr ≤ m.pc + Opcode.operandCount (m.code 0) :=
  ⟨fun _ _ => Cycle.advances_of_executes,
    fun _ => ⟨fun _ => Machine.fetch_eq, fun _ => Machine.addr_of_fetch⟩⟩

/-- Calls the address in the status register. At 0x41 a jump is not taken, and then the call
returns. -/
def calling : Machine :=
  ((Machine.fresh .unbounded).setReg Reg.is 0x40).patch
    [(0, 0x50), (1, 6), (0x41, 0x55), (0x43, 0x11)]

/-- The call, during which the timer ticks. -/
def callingFirst : Cycle := ⟨⟨calling, true⟩, by decide +kernel⟩

def callingSkip : Cycle := ⟨⟨callingFirst.after, false⟩, by decide +kernel⟩

def callingReturn : Cycle := ⟨⟨callingSkip.after, false⟩, by decide +kernel⟩

theorem advances_by_opcode_calling :
    (callingFirst.Executes (.call Reg.is) ∧ callingFirst.after.pc = 0x41 ∧
        (callingFirst.after.memory.load 0xF3).toNat = 2) ∧
      (callingSkip.Executes (.skip .equal) ∧ callingSkip.after.pc = 0x41 + 2) ∧
      (callingReturn.Executes .ret ∧ callingReturn.after.pc = 2) ∧
      (calling.patch [(2, 0x13), (0xFF, 0x13)]).fetch = calling.fetch ∧
      ((calling.patch [(0xFF, 0xA0)]).goto 0xFF).fetch = .error (.outOfBounds 0x100) ∧
      0x100 ≤ 0xFF + Opcode.operandCount 0xA0 := by
  obtain ⟨hcycles, hfetch⟩ := advances_by_opcode
  have hcall : callingFirst.Executes (.call Reg.is) := by decide +kernel
  have hskip : callingSkip.Executes (.skip .equal) := by decide +kernel
  have hret : callingReturn.Executes .ret := by decide +kernel
  obtain ⟨-, htarget, hpushed⟩ := (hcycles _ _ hcall).call Reg.is rfl
  have hnext := (hcycles _ _ hskip).next rfl
  have hback := (hcycles _ _ hret).ret rfl
  have hsame : ∀ k ≤ Opcode.operandCount (calling.code 0),
      (calling.patch [(2, 0x13), (0xFF, 0x13)]).operand k = calling.operand k := by
    have hcount : Opcode.operandCount (calling.code 0) = 1 := by decide +kernel
    rw [hcount]
    intro k hk
    match k, hk with
    | 0, _ => rfl
    | 1, _ => rfl
  have hend : ((calling.patch [(0xFF, 0xA0)]).goto 0xFF).fetch = .error (.outOfBounds 0x100) := rfl
  refine ⟨⟨hcall, ?_, ?_⟩, ⟨hskip, ?_⟩, ⟨hret, ?_⟩, ?_, hend, ?_⟩
  · rw [htarget]
    decide +kernel
  · exact hpushed.trans (by decide +kernel)
  · rw [hnext]
    decide +kernel
  · rw [hback]
    decide +kernel
  · exact (hfetch calling).1 _ rfl hsame
  · exact ((hfetch _).2 0x100 hend).2

end ByteMachine
