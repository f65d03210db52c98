import ByteMachine.Proofs.Footprint

/-! What is fetched depends on the program counter, the flags and the bytes that are read, and on
nothing else. -/

namespace ByteMachine

theorem bind_eq_ok {ε α β : Type} {x : Except ε α} {f : α → Except ε β} {b : β} :
    x >>= f = Except.ok b ↔ ∃ a, x = .ok a ∧ f a = .ok b := by
  cases x with
  | ok a => simp [bind, Except.bind]
  | error e => simp [bind, Except.bind]

namespace Machine

variable {m m' : Machine} {i : Instruction}

theorem operandReg_congr {k : Nat} (h : m'.operand k = m.operand k) :
    m'.operandReg k = m.operandReg k := by
  rw [operandReg, operandReg, h]

/-- The operands that go into an instruction are all that making it depends on. -/
theorem instruction_congr {op : Operation} (h : m.instruction op = .ok i)
    (hflags : m'.regs.flags = m.regs.flags)
    (hread : ∀ k < i.fetched, m'.operand k = m.operand k) : m'.instruction op = .ok i := by
  have hreg (k : Nat) (hk : k < i.fetched) := operandReg_congr (hread k hk)
  rcases op with (op | op) | op
  · obtain ⟨a, -, hi⟩ := bind_eq_ok.1 h
    obtain rfl := Except.ok.inj hi
    rwa [instruction, hreg 1 Nat.one_lt_two]
  · obtain ⟨a, -, hb⟩ := bind_eq_ok.1 h
    obtain ⟨b, -, hi⟩ := bind_eq_ok.1 hb
    obtain rfl := Except.ok.inj hi
    rwa [instruction, hreg 1 (Nat.lt_add_left 1 Nat.one_lt_two), hreg 2 (Nat.lt_succ_self 2)]
  · cases op with
    | nop | hlt | ret | iret => exact h
    | push | pop | prn | pra | call | int =>
      obtain ⟨a, -, hi⟩ := bind_eq_ok.1 h
      obtain rfl := Except.ok.inj hi
      rwa [instruction, hreg 1 Nat.one_lt_two]
    | ld | st =>
      obtain ⟨a, -, hb⟩ := bind_eq_ok.1 h
      obtain ⟨b, -, hi⟩ := bind_eq_ok.1 hb
      obtain rfl := Except.ok.inj hi
      rwa [instruction, hreg 1 (Nat.lt_add_left 1 Nat.one_lt_two), hreg 2 (Nat.lt_succ_self 2)]
    | ldi =>
      obtain ⟨a, -, hb⟩ := bind_eq_ok.1 h
      obtain ⟨v, -, hi⟩ := bind_eq_ok.1 hb
      obtain rfl := Except.ok.inj hi
      rwa [instruction, hreg 1 (Nat.lt_add_left 1 Nat.one_lt_two), hread 2 (Nat.lt_succ_self 2)]
    | jump c =>
      rw [instruction] at h ⊢
      rw [hflags]
      split at h
      · next hc =>
        obtain ⟨a, -, hi⟩ := bind_eq_ok.1 h
        obtain rfl := Except.ok.inj hi
        rwa [if_pos hc, hreg 1 Nat.one_lt_two]
      · next hc => rwa [if_neg hc]

theorem fetched_pos (i : Instruction) : 0 < i.fetched := by
  cases i <;> exact Nat.succ_pos _

theorem fetch_congr (h : m.fetch = .ok i) (hflags : m'.regs.flags = m.regs.flags)
    (hread : ∀ k < i.fetched, m'.operand k = m.operand k) : m'.fetch = .ok i := by
  obtain ⟨opcode, hop, hi⟩ := bind_eq_ok.1 h
  have hop' : m'.operand 0 = .ok opcode := (hread 0 (fetched_pos i)).trans hop
  apply bind_eq_ok.2 ⟨opcode, hop', _⟩
  cases hd : Operation.decode opcode with
  | none => simp [hd] at hi
  | some op =>
    simp only [hd] at hi
    exact instruction_congr hi hflags hread

end Machine

end ByteMachine
