import ByteMachine.Text.Numeral
import ByteMachine.Text.Radix
import ByteMachine.Text.Utf8
import Mathlib.Data.Nat.Digits.Defs

/-! How numbers and texts are written down. A decimal numeral has no zero in front and reads back as
its number; the bytes of a text decode to that text. -/

namespace ByteMachine

namespace Radix

variable {base n d : Nat}

/-- The digits are those of `Nat.digits`, from the other end. -/
theorem digits_eq_reverse (hbase : 2 ≤ base) (n : Nat) :
    digits base n = if n = 0 then [0] else (Nat.digits base n).reverse := by
  fun_induction digits base n with
  | case1 n h ih =>
    have hpos : 0 < n := by omega
    have hmore : n / base ≠ 0 := (Nat.div_pos h.2 (by omega)).ne'
    rw [if_neg hpos.ne', Nat.digits_def' hbase hpos, List.reverse_cons, ih, if_neg hmore]
  | case2 n h =>
    split
    · next hzero => rw [hzero]
    · next hne => rw [Nat.digits_of_lt base n hne (by omega), List.reverse_singleton]

theorem digits_ne_nil (base n : Nat) : digits base n ≠ [] := by
  fun_cases digits base n with
  | case1 => exact List.append_ne_nil_of_right_ne_nil _ (List.cons_ne_nil _ _)
  | case2 => exact List.cons_ne_nil _ _

theorem lt_of_mem_digits (hbase : 2 ≤ base) (h : d ∈ digits base n) : d < base := by
  fun_induction digits base n with
  | case1 n _ ih =>
    rcases List.mem_append.1 h with hmore | hlast
    · exact ih hmore
    · rw [List.mem_singleton.1 hlast]
      exact Nat.mod_lt _ (by omega)
  | case2 n h' =>
    rw [List.mem_singleton.1 h]
    omega

/-- The zeros in front of a numeral are digits like the others. -/
theorem spell_eq_map (letter : Char) (base width n : Nat) :
    spell letter base width n = ((digits base n).leftpad width 0).map (digitChar letter) := by
  rw [spell, List.leftpad, List.leftpad, List.map_append, List.map_replicate, List.length_map]
  rfl

theorem value_leftpad (base width : Nat) (ds : List Nat) :
    value base (ds.leftpad width 0) = value base ds := by
  rw [List.leftpad, value, List.foldl_append]
  have hzero (k : Nat) : (List.replicate k 0).foldl (fun v d => v * base + d) 0 = 0 := by
    induction k with
    | zero => rfl
    | succ k ih => rw [List.replicate_succ, List.foldl_cons, Nat.zero_mul, ih]
  rw [hzero, value]

theorem lt_of_mem_leftpad {width : Nat} (hbase : 2 ≤ base)
    (h : d ∈ (digits base n).leftpad width 0) : d < base := by
  rw [List.leftpad, List.mem_append, List.mem_replicate] at h
  rcases h with ⟨-, rfl⟩ | h
  · omega
  · exact lt_of_mem_digits hbase h

/-- One digit is wide enough, so that no zero is put in front of a numeral. -/
theorem toList_decimal (n : Nat) : (decimal n).toList = (digits 10 n).map (digitChar 'a') := by
  have hwide : 1 ≤ (digits 10 n).length := List.length_pos_iff.2 (digits_ne_nil 10 n)
  rw [decimal, String.toList_ofList, spell_eq_map, List.leftpad, Nat.sub_eq_zero_of_le hwide]
  rfl

theorem isDigit_digitChar : ∀ d < 10, '0' ≤ digitChar 'a' d ∧ digitChar 'a' d ≤ '9' := by decide

/-- The characters of a decimal numeral are digits. -/
theorem between_of_mem_decimal {c : Char} (h : c ∈ (decimal n).toList) : '0' ≤ c ∧ c ≤ '9' := by
  rw [toList_decimal, List.mem_map] at h
  obtain ⟨d, hd, rfl⟩ := h
  exact isDigit_digitChar d (lt_of_mem_digits (by decide) hd)

end Radix

namespace Text

variable {n : Nat}

theorem readDigits_append (v : Nat) (front back : List Char) :
    readDigits v (front ++ back) = (readDigits v front).bind fun w => readDigits w back := by
  induction front generalizing v with
  | nil => rfl
  | cons c front ih =>
    rw [List.cons_append, readDigits, readDigits]
    cases readDigit c with
    | none => rfl
    | some d =>
      dsimp only
      split
      · exact ih _
      · rfl

theorem readDigit_digitChar : ∀ d < 10, readDigit (Radix.digitChar 'a' d) = some d := by decide

theorem readDigits_singleton {v d : Nat} (hd : d < 10) (h : v * 10 + d < wordRange) :
    readDigits v [Radix.digitChar 'a' d] = .ok (v * 10 + d) := by
  rw [readDigits, readDigit_digitChar d hd]
  exact if_pos h

theorem readDigits_digits (h : n < wordRange) :
    readDigits 0 ((Radix.digits 10 n).map (Radix.digitChar 'a')) = .ok n := by
  fun_induction Radix.digits 10 n with
  | case1 n _ ih =>
    -- The digits before the last one are those of `n / 10`, which is in range as well.
    have hsplit : n / 10 * 10 + n % 10 = n := Nat.div_add_mod' n 10
    rw [List.map_append, readDigits_append, ih (by omega)]
    show readDigits (n / 10) [Radix.digitChar 'a' (n % 10)] = _
    rw [readDigits_singleton (Nat.mod_lt _ (by decide)) (by omega), hsplit]
  | case2 n hsmall =>
    have hdigit : 0 * 10 + n = n := by omega
    rw [List.map_singleton, readDigits_singleton (by omega) (by omega), hdigit]

theorem readWord_of_head? {text : List Char} (hne : text ≠ []) (h : text.head? ≠ some '+') :
    readWord text = readDigits 0 text := by
  fun_cases readWord text with
  | case1 => exact absurd rfl hne
  | case2 => exact absurd rfl h
  | case3 => exact absurd rfl h
  | case4 => rfl

/-- A decimal numeral is read as its number. -/
theorem readWord_decimal (h : n < wordRange) : readWord (Radix.decimal n).toList = .ok n := by
  have hne : (Radix.decimal n).toList ≠ [] := by
    simpa [Radix.toList_decimal] using Radix.digits_ne_nil 10 n
  have hplus : (Radix.decimal n).toList.head? ≠ some '+' := fun hhead =>
    absurd (Radix.between_of_mem_decimal (List.mem_of_head? hhead)).1 (by decide)
  rw [readWord_of_head? hne hplus, Radix.toList_decimal, readDigits_digits h]

/-- The bytes as a file holds them. -/
def byteArray (bs : List Byte) : ByteArray := (bs.map UInt8.ofBitVec).toByteArray

theorem byteArray_utf8 (text : List Char) : byteArray (utf8 text) = (String.ofList text).toUTF8 := by
  have hbytes (bs : List UInt8) : (bs.map UInt8.toBitVec).map UInt8.ofBitVec = bs := by
    rw [List.map_map]
    exact List.map_id bs
  rw [byteArray, utf8, hbytes]
  exact String.toByteArray_ofList.symm

theorem fromUTF8?_toUTF8 (text : String) : String.fromUTF8? text.toUTF8 = some text := by
  have hvalid : text.toUTF8.IsValidUTF8 := text.isValidUTF8
  rw [String.fromUTF8?, dif_pos hvalid]
  rfl

/-- The bytes of a text decode to that text. -/
theorem fromUTF8?_utf8 (text : List Char) :
    String.fromUTF8? (byteArray (utf8 text)) = some (String.ofList text) := by
  rw [byteArray_utf8, fromUTF8?_toUTF8]

theorem toNat_ofNat_byte (v : Byte) : (Char.ofNat v.toNat).toNat = v.toNat := by
  have hv := v.isLt
  have hvalid : v.toNat.isValidChar := .inl (by omega)
  rw [Char.ofNat, dif_pos hvalid]
  rfl

theorem utf8_flatMap {α : Type} (xs : List α) (f : α → List Char) :
    utf8 (xs.flatMap f) = xs.flatMap fun x => utf8 (f x) := by
  induction xs with
  | nil => rfl
  | cons x xs ih => rw [List.flatMap_cons, List.flatMap_cons, utf8_append, ih]

/-- The decimal numeral of a number in ASCII, with no zero in front. -/
def numeral (n : Nat) : List Byte :=
  (if n = 0 then [0] else (Nat.digits 10 n).reverse).map fun d => 0x30 + BitVec.ofNat 8 d

theorem utf8_digitChar : ∀ d < 10, utf8 [Radix.digitChar 'a' d] = [0x30 + BitVec.ofNat 8 d] := by
  decide

theorem utf8_map_digitChar {ds : List Nat} (h : ∀ d ∈ ds, d < 10) :
    utf8 (ds.map (Radix.digitChar 'a')) = ds.map fun d => 0x30 + BitVec.ofNat 8 d := by
  induction ds with
  | nil => rfl
  | cons d ds ih =>
    rw [List.forall_mem_cons] at h
    rw [List.map_cons, ← List.singleton_append, utf8_append, utf8_digitChar d h.1, ih h.2]
    rfl

theorem utf8_decimal (n : Nat) : utf8 (Radix.decimal n).toList = numeral n := by
  have hdigits : ∀ d ∈ Radix.digits 10 n, d < 10 := fun d => Radix.lt_of_mem_digits (by decide)
  rw [Radix.toList_decimal, utf8_map_digitChar hdigits, Radix.digits_eq_reverse (by decide), numeral]

end Text

end ByteMachine
