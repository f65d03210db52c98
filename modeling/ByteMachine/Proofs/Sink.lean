import ByteMachine.Sink

/-! Sinks compared by what they still take. Writing only ever uses up room. -/

namespace ByteMachine

namespace Sink

/-- The sink after it took more bytes. -/
def extend (s : Sink) (bs : List Byte) : Sink := { s with written := s.written ++ bs }

/-- A write takes some of the bytes, from the first one on. -/
theorem exists_write_eq_extend (s : Sink) (bs : List Byte) :
    ∃ taken, taken <+: bs ∧ (s.write bs).1 = s.extend taken := by
  induction bs generalizing s with
  | nil => exact ⟨[], List.prefix_rfl, by simp [write, extend]⟩
  | cons b bs ih =>
    rw [write]
    split
    · exact ⟨[], List.nil_prefix, by simp [extend]⟩
    · obtain ⟨taken, hprefix, hwrite⟩ := ih { s with written := s.written.push b }
      refine ⟨b :: taken, List.cons_prefix_cons.2 ⟨rfl, hprefix⟩, ?_⟩
      rw [hwrite]
      simp [extend]

end Sink

/-- The sink `t` takes whatever `s` takes. -/
structure Sink.Roomier (s t : Sink) : Prop where
  capacity : t.capacity = s.capacity
  flushable : t.flushable = s.flushable
  size : t.written.size ≤ s.written.size

namespace Sink.Roomier

theorem refl (s : Sink) : s.Roomier s := ⟨rfl, rfl, Nat.le_refl _⟩

theorem trans {s t u : Sink} (h : s.Roomier t) (h' : t.Roomier u) : s.Roomier u :=
  ⟨h'.capacity.trans h.capacity, h'.flushable.trans h.flushable, Nat.le_trans h'.size h.size⟩

theorem not_isFull {s t : Sink} (h : s.Roomier t) (hs : s.isFull = false) : t.isFull = false := by
  have hsize := h.size
  unfold isFull at *
  rw [h.capacity]
  cases hc : s.capacity with
  | none => rfl
  | some n =>
    simp only [hc, decide_eq_false_iff_not] at hs ⊢
    omega

/-- What `s` writes to its end, `t` writes as well. -/
theorem write {s t s' : Sink} {bs : List Byte} (h : s.Roomier t) (hs : s.write bs = (s', none)) :
    ∃ t', t.write bs = (t', none) ∧ s'.Roomier t' := by
  induction bs generalizing s t with
  | nil =>
    cases hs
    exact ⟨t, rfl, h⟩
  | cons b bs ih =>
    cases hfull : s.isFull with
    | true => simp [Sink.write, hfull] at hs
    | false =>
      have hpush : Roomier { s with written := s.written.push b }
          { t with written := t.written.push b } :=
        ⟨h.capacity, h.flushable, by simpa using h.size⟩
      rw [Sink.write, hfull, if_neg Bool.false_ne_true] at hs
      rw [Sink.write, h.not_isFull hfull, if_neg Bool.false_ne_true]
      exact ih hpush hs

theorem flush {s t : Sink} (h : s.Roomier t) : s.flush.1.Roomier t.flush.1 := by
  have hf := h.flushable
  unfold Sink.flush
  rw [hf]
  split
  · exact ⟨h.capacity, rfl, h.size⟩
  · exact h

theorem of_write (s : Sink) (bs : List Byte) : (s.write bs).1.Roomier s := by
  induction bs generalizing s with
  | nil => exact refl s
  | cons b bs ih =>
    rw [Sink.write]
    split
    · exact refl s
    · exact (ih _).trans ⟨rfl, rfl, by simp⟩

theorem of_flush (s : Sink) : s.flush.1.Roomier s := by
  unfold Sink.flush
  split
  · exact ⟨rfl, rfl, Nat.le_refl _⟩
  · exact refl s

end Sink.Roomier

end ByteMachine
