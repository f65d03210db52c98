/-! Bytes and their single bits. -/

namespace ByteMachine

/-- A byte is a word of eight bits, so its arithmetic wraps modulo 256. -/
abbrev Byte := BitVec 8

namespace Byte

def bit (n : Fin 8) : Byte := 1#8 <<< n.val

/-- The position of the lowest set bit; the zero byte has none. -/
def lowest? (b : Byte) : Option (Fin 8) :=
  (List.finRange 8).find? fun n => b.getLsbD n

@[simp] theorem getLsbD_bit (n : Fin 8) (i : Nat) : (bit n).getLsbD i = decide (i = n) := by
  have hn := n.isLt
  by_cases h : i = n
  · simp [bit, h, hn]
  · have : i < 8 → i < n ∨ 0 < i - n := by omega
    simp [bit, h]
    omega

theorem lowest?_eq_none_iff (b : Byte) : lowest? b = none ↔ b = 0 := by
  constructor
  · intro h
    apply BitVec.eq_of_getLsbD_eq
    intro i hi
    have := List.find?_eq_none.1 h ⟨i, hi⟩ (List.mem_finRange _)
    simpa using this
  · rintro rfl
    simp [lowest?]

theorem lowest?_eq_some {b : Byte} {n : Fin 8} (h : lowest? b = some n) :
    b.getLsbD n = true ∧ ∀ k : Fin 8, k < n → b.getLsbD k = false := by
  obtain ⟨hn, i, hi, hin, hbelow⟩ := List.find?_eq_some_iff_getElem.1 h
  rw [List.getElem_finRange] at hin
  refine ⟨hn, ?_⟩
  intro k hk
  have hki : k.val < i := by
    rw [← hin] at hk
    exact hk
  have := hbelow k hki
  simpa using this

end Byte

end ByteMachine
