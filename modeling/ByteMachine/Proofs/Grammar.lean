import ByteMachine.Program
import ByteMachine.Proofs.Layout
import Mathlib.Data.List.Basic
import Mathlib.Data.List.Induction
import Mathlib.Data.Nat.Digits.Defs

/-! Which texts are programs, told by the lines of a text alone, and that reading a text follows it:
what it accepts, and what it reports of the rest. -/

namespace ByteMachine

namespace Text

def IsBit (c : Char) : Prop := c = '0' ∨ c = '1'

instance (c : Char) : Decidable (IsBit c) := inferInstanceAs (Decidable (_ ∨ _))

-- A decision by the general instance could run through all characters there are.
instance (text : List Char) : Decidable (∀ c ∈ text, IsBit c) := List.decidableBAll IsBit text

/-- The number with the binary digits of a text, of which the last has the least weight. -/
def binary (text : List Char) : Nat :=
  Nat.ofDigits 2 (text.reverse.map fun c => if c = '1' then 1 else 0)

theorem binary_append (text : List Char) (c : Char) :
    binary (text ++ [c]) = binary text * 2 + if c = '1' then 1 else 0 := by
  rw [binary, List.reverse_append, List.reverse_singleton, List.singleton_append, List.map_cons,
    Nat.ofDigits_cons, ← binary]
  omega

theorem readBits_append (text : List Char) (c : Char) :
    readBits (text ++ [c]) = (readBits text).bind fun v =>
      if c = '0' then some (v * 2) else if c = '1' then some (v * 2 + 1) else none := by
  rw [readBits, List.foldlM_append]
  simp [readBits, Option.bind_eq_bind]

theorem readBits_eq_some_iff {text : List Char} {v : Nat} :
    readBits text = some v ↔ (∀ c ∈ text, IsBit c) ∧ v = binary text := by
  -- The digit read last is the one of least weight, so the text grows at its end.
  induction text using List.reverseRecOn generalizing v with
  | nil =>
    constructor
    · intro h
      refine ⟨nofun, ?_⟩
      cases h
      rfl
    · rintro ⟨-, rfl⟩
      rfl
  | append_singleton text c ih =>
    rw [readBits_append, Option.bind_eq_some_iff, List.forall_mem_append, List.forall_mem_singleton,
      binary_append]
    constructor
    · rintro ⟨w, hw, h⟩
      obtain ⟨hbits, rfl⟩ := ih.1 hw
      split_ifs at h with h₀ h₁
      · subst h₀
        exact ⟨⟨hbits, .inl rfl⟩, (Option.some.inj h).symm⟩
      · subst h₁
        exact ⟨⟨hbits, .inr rfl⟩, (Option.some.inj h).symm⟩
    · rintro ⟨⟨hbits, rfl | rfl⟩, rfl⟩
      · exact ⟨_, ih.2 ⟨hbits, rfl⟩, rfl⟩
      · exact ⟨_, ih.2 ⟨hbits, rfl⟩, rfl⟩

end Text

namespace Program

/-- The text is a numeral of a byte. -/
structure IsByte (text : List Char) : Prop where
  bits : ∀ c ∈ text, Text.IsBit c
  le : Text.binary text ≤ 255

instance (text : List Char) : Decidable (IsByte text) :=
  decidable_of_iff ((∀ c ∈ text, Text.IsBit c) ∧ Text.binary text ≤ 255)
    ⟨fun h => ⟨h.1, h.2⟩, fun h => ⟨h.bits, h.le⟩⟩

theorem readByte?_eq (text : List Char) :
    readByte? text = if IsByte text then some (BitVec.ofNat 8 (Text.binary text)) else none := by
  unfold readByte?
  cases hread : Text.readBits text with
  | none =>
    rw [if_neg]
    intro h
    have hsome := Text.readBits_eq_some_iff.2 ⟨h.bits, rfl⟩
    rw [hread] at hsome
    cases hsome
  | some v =>
    obtain ⟨hbits, rfl⟩ := Text.readBits_eq_some_iff.1 hread
    refine if_congr ⟨fun h => ⟨hbits, by omega⟩, fun h => ?_⟩ rfl rfl
    have hle := h.le
    omega

/-- The first character of the line is a binary digit. -/
def StartsWithBit (line : List Char) : Prop := ∃ c ∈ line.head?, Text.IsBit c

instance (line : List Char) : Decidable (StartsWithBit line) :=
  Option.decidableExistsMem line.head?

/-- `text` is what stands on the line before the first `#`, without the blanks around it. -/
def HasText (line text : List Char) : Prop :=
  ∃ code comment, line = code ++ comment ∧ '#' ∉ code ∧ (∀ c, comment.head? = some c → c = '#') ∧
    Text.Trimmed code text

theorem isCode_iff {line : List Char} : isCode line = true ↔ StartsWithBit line := by
  cases line <;> simp [isCode, StartsWithBit, Text.IsBit]

theorem hasText_iff {line text : List Char} : HasText line text ↔ text = codeText line := by
  constructor
  · rintro ⟨code, comment, rfl, hcode, hcomment, htext⟩
    have hne : ∀ c ∈ code, decide (c ≠ '#') = true := by
      intro c hc
      rw [decide_eq_true_eq]
      rintro rfl
      exact hcode hc
    have htake : comment.takeWhile (· ≠ '#') = [] := by
      cases comment with
      | nil => rfl
      | cons c comment => rw [hcomment c rfl, List.takeWhile_cons_of_neg (by simp)]
    rw [codeText, List.takeWhile_append_of_pos hne, htake, List.append_nil]
    exact Text.trimmed_iff.1 htext
  · rintro rfl
    refine ⟨_, line.dropWhile (· ≠ '#'), List.takeWhile_append_dropWhile.symm, ?_, ?_,
      Text.trimmed_trim _⟩
    · intro h
      simpa using List.mem_takeWhile_imp h
    · intro c hc
      have hnot := List.head?_dropWhile_not (· ≠ '#') line
      rw [hc] at hnot
      simpa using hnot

/-- A line that starts with a binary digit: where it stands, and its text. -/
structure CodeLine where
  number : Nat
  text : List Char
  deriving DecidableEq

/-- `Lists n ls code`: `code` holds the lines among `ls` that start with a binary digit. The first
of the lines has the number `n`. -/
inductive Lists : Nat → List (List Char) → List CodeLine → Prop where
  | nil {n : Nat} : Lists n [] []
  | skipped {n : Nat} {line : List Char} {rest : List (List Char)} {code : List CodeLine} :
    ¬StartsWithBit line → Lists (n + 1) rest code → Lists n (line :: rest) code
  | code {n : Nat} {line text : List Char} {rest : List (List Char)} {code : List CodeLine} :
    StartsWithBit line → HasText line text → Lists (n + 1) rest code →
    Lists n (line :: rest) (⟨n, text⟩ :: code)

/-- `code` holds the lines of the source that start with a binary digit. -/
def Reads (source : String) (code : List CodeLine) : Prop :=
  ∃ ls, Text.Splits source.toList ls ∧ Lists 1 ls code

theorem exists_lists (n : Nat) (ls : List (List Char)) : ∃ code, Lists n ls code := by
  induction ls generalizing n with
  | nil => exact ⟨[], .nil⟩
  | cons line rest ih =>
    obtain ⟨code, hrest⟩ := ih (n + 1)
    by_cases hline : StartsWithBit line
    · exact ⟨_, .code hline (hasText_iff.2 rfl) hrest⟩
    · exact ⟨code, .skipped hline hrest⟩

theorem exists_reads (source : String) : ∃ code, Reads source code := by
  obtain ⟨code, hcode⟩ := exists_lists 1 (Text.lines source.toList)
  exact ⟨code, _, Text.splits_lines _, hcode⟩

/-- The first line that is no byte. -/
def firstBad? (code : List CodeLine) : Option CodeLine :=
  code.find? fun line => ¬IsByte line.text

theorem firstBad?_eq_none_iff {code : List CodeLine} :
    firstBad? code = none ↔ ∀ line ∈ code, IsByte line.text := by
  simp [firstBad?, List.find?_eq_none]

def bytes (code : List CodeLine) : List Byte :=
  code.map fun line => BitVec.ofNat 8 (Text.binary line.text)

@[simp] theorem length_bytes (code : List CodeLine) : (bytes code).length = code.length :=
  List.length_map _

/-- No numeral of a byte is cut. -/
theorem map_toNat_bytes {code : List CodeLine} (h : ∀ line ∈ code, IsByte line.text) :
    (bytes code).map BitVec.toNat = code.map fun line => Text.binary line.text := by
  rw [bytes, List.map_map]
  apply List.map_congr_left
  intro line hline
  have hle := (h line hline).le
  rw [Function.comp_apply, BitVec.toNat_ofNat]
  omega

theorem eq_bytes_iff {code : List CodeLine} (h : ∀ line ∈ code, IsByte line.text) {p : List Byte} :
    p = bytes code ↔ p.map BitVec.toNat = code.map fun line => Text.binary line.text := by
  rw [← map_toNat_bytes h]
  exact (List.map_injective_iff.2 fun _ _ => BitVec.eq_of_toNat_eq).eq_iff.symm

theorem Lists.ofLines_eq {n : Nat} {ls : List (List Char)} {code : List CodeLine}
    (h : Lists n ls code) :
    ofLines n ls =
      match firstBad? code with
      | some line => .error (.invalidByte line.number line.text)
      | none => .ok (bytes code) := by
  induction h with
  | nil => rfl
  | skipped hline _ ih => rw [ofLines, if_neg (isCode_iff.not.2 hline), ih]
  | @code n line text rest code hline htext _ ih =>
    obtain rfl := hasText_iff.1 htext
    rw [ofLines, if_pos (isCode_iff.2 hline), readByte?_eq, firstBad?, List.find?_cons]
    by_cases hbyte : IsByte (codeText line)
    · simp only [hbyte, if_true, not_true_eq_false, decide_false]
      rw [ih, ← firstBad?]
      cases firstBad? code <;> rfl
    · simp only [hbyte, if_false, not_false_eq_true, decide_true]

variable {source : String} {code : List CodeLine}

theorem Reads.parse_eq (h : Reads source code) :
    parse source =
      match firstBad? code with
      | some line => .error (.invalidByte line.number line.text)
      | none =>
        if 256 < code.length then .error (.tooLarge code.length) else .ok (bytes code) := by
  obtain ⟨ls, hsplits, hlists⟩ := h
  obtain rfl := Text.splits_iff.1 hsplits
  rw [parse, hlists.ofLines_eq]
  cases firstBad? code with
  | some line => rfl
  | none => rw [← length_bytes code]; rfl

theorem Reads.parse_eq_ok_iff (h : Reads source code) {p : List Byte} :
    parse source = .ok p ↔ (∀ line ∈ code, IsByte line.text) ∧ code.length ≤ 256 ∧
      p.map BitVec.toNat = code.map fun line => Text.binary line.text := by
  rw [h.parse_eq]
  cases hbad : firstBad? code with
  | some line =>
    constructor
    · nofun
    · rintro ⟨hall, -⟩
      rw [firstBad?_eq_none_iff.2 hall] at hbad
      cases hbad
  | none =>
    have hall := firstBad?_eq_none_iff.1 hbad
    simp only
    split_ifs with hlt
    · constructor
      · nofun
      · intro hok
        omega
    · constructor
      · intro hok
        obtain rfl := Except.ok.inj hok
        exact ⟨hall, by omega, map_toNat_bytes hall⟩
      · rintro ⟨-, -, hp⟩
        rw [(eq_bytes_iff hall).2 hp]

theorem Reads.parse_eq_error_iff (h : Reads source code) {error : LoadError} :
    parse source = .error error ↔
      (∃ line, firstBad? code = some line ∧ error = .invalidByte line.number line.text) ∨
        (∀ line ∈ code, IsByte line.text) ∧ 256 < code.length ∧
          error = .tooLarge code.length := by
  rw [h.parse_eq]
  cases hbad : firstBad? code with
  | some line =>
    constructor
    · intro herror
      exact .inl ⟨line, rfl, (Except.error.inj herror).symm⟩
    · rintro (⟨_, hline, rfl⟩ | ⟨hall, -⟩)
      · cases hline
        rfl
      · rw [firstBad?_eq_none_iff.2 hall] at hbad
        cases hbad
  | none =>
    have hall := firstBad?_eq_none_iff.1 hbad
    simp only
    split_ifs with hlt
    · constructor
      · intro herror
        exact .inr ⟨hall, hlt, (Except.error.inj herror).symm⟩
      · rintro (⟨_, hline, -⟩ | ⟨-, -, rfl⟩)
        · cases hline
        · rfl
    · constructor
      · nofun
      · rintro (⟨_, hline, -⟩ | ⟨-, hlt', -⟩)
        · cases hline
        · exact absurd hlt' hlt

/-- A text is a program if each line that starts with a binary digit is the numeral of a byte and
there are no more of them than memory has room for. Otherwise the first such line that is no numeral
of a byte is reported, and only if there is none the number of lines. -/
theorem parse_follows_grammar (source : String) :
    (∃ code, Reads source code) ∧ ∀ code, Reads source code →
      (∀ p, parse source = .ok p ↔ (∀ line ∈ code, IsByte line.text) ∧ code.length ≤ 256 ∧
        p.map BitVec.toNat = code.map fun line => Text.binary line.text) ∧
      ∀ error, parse source = .error error ↔
        (∃ line, firstBad? code = some line ∧ error = .invalidByte line.number line.text) ∨
          (∀ line ∈ code, IsByte line.text) ∧ 256 < code.length ∧
            error = .tooLarge code.length := by
  refine ⟨exists_reads source, ?_⟩
  intro code h
  exact ⟨fun _ => h.parse_eq_ok_iff, fun _ => h.parse_eq_error_iff⟩

/-- A source with a comment, an indented line, an empty line and a line that is no byte. -/
def mixed : String := "0101 # five\r\n 1\n\n102 #x\n2"

theorem reads_mixed : Reads mixed [⟨1, "0101".toList⟩, ⟨4, "102".toList⟩] := by
  have hlines : Text.lines mixed.toList =
      ["0101 # five".toList, " 1".toList, [], "102 #x".toList, "2".toList] := by decide +kernel
  refine ⟨_, Text.splits_lines _, ?_⟩
  rw [hlines]
  apply Lists.code (by decide +kernel) (hasText_iff.2 (by decide +kernel))
  apply Lists.skipped (by decide +kernel)
  apply Lists.skipped (by decide +kernel)
  apply Lists.code (by decide +kernel) (hasText_iff.2 (by decide +kernel))
  exact .skipped (by decide +kernel) .nil

theorem parse_follows_grammar_mixed :
    Reads mixed [⟨1, "0101".toList⟩, ⟨4, "102".toList⟩] ∧
      parse mixed = .error (.invalidByte 4 "102".toList) := by
  have herror := ((parse_follows_grammar mixed).2 _ reads_mixed).2 (.invalidByte 4 "102".toList)
  refine ⟨reads_mixed, herror.2 (.inl ⟨⟨4, "102".toList⟩, ?_, rfl⟩)⟩
  decide +kernel

end Program

end ByteMachine
