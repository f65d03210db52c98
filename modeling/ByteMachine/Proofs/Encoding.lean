import ByteMachine.Proofs.Fetch

/-! The bytes of code from the program counter on, and what they say about the instruction that is
fetched from there. -/

namespace ByteMachine

namespace Machine

/-- The byte `k` past the program counter. Past the end of memory it means nothing. -/
def code (m : Machine) (k : Nat) : Byte := m.memory.load (BitVec.ofNat 8 (m.pc + k))

variable {m : Machine} {i : Instruction} {k : Nat}

theorem operand_of_lt (h : m.pc + k < Memory.size) : m.operand k = .ok (m.code k) :=
  Memory.read_of_lt _ h

theorem operand_of_le (h : Memory.size ≤ m.pc + k) :
    m.operand k = .error (.outOfBounds (m.pc + k)) :=
  Memory.read_of_le _ h

theorem operand_eq_ok {v : Byte} :
    m.operand k = .ok v ↔ m.pc + k < Memory.size ∧ m.code k = v := by
  by_cases h : m.pc + k < Memory.size
  · simp [operand_of_lt h, h]
  · simp [operand_of_le (Nat.le_of_not_lt h), h]

theorem operandReg_eq_ok {r : Reg} :
    m.operandReg k = .ok r ↔ m.pc + k < Memory.size ∧ (m.code k).toNat = r := by
  have hreg (v : Byte) : Reg.ofOperand v = .ok r ↔ v.toNat = r := by
    unfold Reg.ofOperand
    split
    · simp [Fin.ext_iff]
    · next h =>
      have hlt := r.isLt
      simp only [reduceCtorEq, false_iff]
      omega
  simp [operandReg, bind_eq_ok, operand_eq_ok, hreg, and_assoc]

/-- The code at the program counter is that of the instruction: the operation is that of the opcode,
all bytes read are inside memory, and each named register is the operand byte in its place. -/
structure Encodes (m : Machine) (i : Instruction) : Prop where
  operation : Operation.decode (m.code 0) = some i.operation
  inside : m.pc + i.fetched ≤ Memory.size
  named : ∀ (k : Nat) (r : Reg), i.named[k]? = some r → (m.code (k + 1)).toNat = r

theorem named_of_one {a : Reg} (ha : (m.code 1).toNat = a) :
    ∀ (k : Nat) (r : Reg), [a][k]? = some r → (m.code (k + 1)).toNat = r
  | 0, _, rfl => ha
  | k + 1, _, h => by simp at h

theorem named_of_two {a b : Reg} (ha : (m.code 1).toNat = a) (hb : (m.code 2).toNat = b) :
    ∀ (k : Nat) (r : Reg), [a, b][k]? = some r → (m.code (k + 1)).toNat = r
  | 0, _, rfl => ha
  | 1, _, rfl => hb
  | k + 2, _, h => by simp at h

theorem named_of_none (k : Nat) (r : Reg) (h : [][k]? = some r) : (m.code (k + 1)).toNat = r := by
  simp at h

theorem encodes_of_instruction {op : Operation} (hop : Operation.decode (m.code 0) = some op)
    (hpc : m.pc < Memory.size) (h : m.instruction op = .ok i) : m.Encodes i := by
  rcases op with (op | op) | op
  · obtain ⟨a, ha, h⟩ := bind_eq_ok.1 h
    obtain rfl := Except.ok.inj h
    obtain ⟨hlt, ha⟩ := operandReg_eq_ok.1 ha
    exact ⟨hop, hlt, named_of_one ha⟩
  · obtain ⟨a, ha, h⟩ := bind_eq_ok.1 h
    obtain ⟨b, hb, h⟩ := bind_eq_ok.1 h
    obtain rfl := Except.ok.inj h
    obtain ⟨hlt, hb⟩ := operandReg_eq_ok.1 hb
    exact ⟨hop, hlt, named_of_two (operandReg_eq_ok.1 ha).2 hb⟩
  · cases op with
    | nop | hlt | ret | iret =>
      obtain rfl := Except.ok.inj h
      exact ⟨hop, hpc, named_of_none⟩
    | push | pop | prn | pra | call | int =>
      obtain ⟨a, ha, h⟩ := bind_eq_ok.1 h
      obtain rfl := Except.ok.inj h
      obtain ⟨hlt, ha⟩ := operandReg_eq_ok.1 ha
      exact ⟨hop, hlt, named_of_one ha⟩
    | ld | st =>
      obtain ⟨a, ha, h⟩ := bind_eq_ok.1 h
      obtain ⟨b, hb, h⟩ := bind_eq_ok.1 h
      obtain rfl := Except.ok.inj h
      obtain ⟨hlt, hb⟩ := operandReg_eq_ok.1 hb
      exact ⟨hop, hlt, named_of_two (operandReg_eq_ok.1 ha).2 hb⟩
    | ldi =>
      obtain ⟨a, ha, h⟩ := bind_eq_ok.1 h
      obtain ⟨v, hv, h⟩ := bind_eq_ok.1 h
      obtain rfl := Except.ok.inj h
      exact ⟨hop, (operand_eq_ok.1 hv).1, named_of_one (operandReg_eq_ok.1 ha).2⟩
    | jump c =>
      rw [instruction] at h
      split at h
      · obtain ⟨a, ha, h⟩ := bind_eq_ok.1 h
        obtain rfl := Except.ok.inj h
        obtain ⟨hlt, ha⟩ := operandReg_eq_ok.1 ha
        exact ⟨hop, hlt, named_of_one ha⟩
      · obtain rfl := Except.ok.inj h
        exact ⟨hop, hpc, named_of_none⟩

theorem encodes_of_fetch (h : m.fetch = .ok i) : m.Encodes i := by
  obtain ⟨opcode, hop, hi⟩ := bind_eq_ok.1 h
  obtain ⟨hpc, rfl⟩ := operand_eq_ok.1 hop
  cases hd : Operation.decode (m.code 0) with
  | none => simp [hd] at hi
  | some op =>
    simp only [hd] at hi
    exact encodes_of_instruction hd hpc hi

end Machine

end ByteMachine
