import ByteMachine.Machine.Basic
import ByteMachine.Proofs.Spelling

/-! What a trace line tells. Its words are told apart by the blanks between them, and each of them
reads back as the number it was made from, so that two machines with one line agree in all that it
shows. -/

namespace ByteMachine

namespace Text

/-- What stands between the blanks of a line. -/
def words (line : String) : List (List Char) := line.toList.splitOn ' '

def readHexDigit (c : Char) : Option Nat :=
  if 'A' ≤ c ∧ c ≤ 'F' then some (c.toNat - 'A'.toNat + 10) else readDigit c

/-- The number that a text of uppercase hexadecimal digits stands for, if it holds no other
character. -/
def readHex (text : List Char) : Option Nat := (text.mapM readHexDigit).map (Radix.value 16)

theorem readHexDigit_digitChar : ∀ d < 16, readHexDigit (Radix.digitChar 'A' d) = some d := by
  decide

theorem mapM_readHexDigit {ds : List Nat} (h : ∀ d ∈ ds, d < 16) :
    (ds.map (Radix.digitChar 'A')).mapM readHexDigit = some ds := by
  induction ds with
  | nil => rfl
  | cons d ds ih =>
    rw [List.forall_mem_cons] at h
    rw [List.map_cons, List.mapM_cons, readHexDigit_digitChar d h.1, ih h.2]
    rfl

/-- A field of a trace reads back as its number. -/
theorem readHex_field (n : Nat) : readHex (Radix.field n) = some n := by
  have hdigits : ∀ d ∈ (Radix.digits 16 n).leftpad 2 0, d < 16 :=
    fun d => Radix.lt_of_mem_leftpad (by decide)
  rw [readHex, Radix.field, Radix.spell_eq_map, mapM_readHexDigit hdigits, Option.map_some,
    Radix.value_leftpad, Radix.value_digits]

end Text

namespace Trace

/-- The words of the line: its label, the counter, three bytes of code and eight registers, with
bars between these groups. -/
def words (t : Trace) : List (List Char) :=
  "TRACE:".toList :: Radix.field t.pc :: ['|'] :: (t.code.toList.map codeField ++
    ['|'] :: t.values.toList.map fun v => Radix.field v.toNat)

theorem intercalate_cons (word : List Char) (words : List (List Char)) :
    [' '].intercalate (word :: words) = word ++ spaced words := by
  induction words generalizing word with
  | nil => simp [List.intercalate, spaced]
  | cons next words ih =>
    rw [List.intercalate_cons_cons, ih, List.append_assoc]
    rfl

theorem toList_line (t : Trace) : t.line.toList = [' '].intercalate t.words := by
  rw [line, String.toList_append, String.toList_ofList, words, intercalate_cons]
  simp [fields, spaced]

example : (Trace.mk 255 #v[some 0x82, none, none] #v[0, 10, 0, 0, 0, 0, 0, 0xF4]).line =
    "TRACE: FF | 82 -- -- | 00 0A 00 00 00 00 00 F4" := by cbv

theorem blank_notMem_field (n : Nat) : ' ' ∉ Radix.field n := by
  have hdigit : ∀ d < 16, Radix.digitChar 'A' d ≠ ' ' := by decide
  rw [Radix.field, Radix.spell_eq_map, List.mem_map]
  rintro ⟨d, hd, hblank⟩
  exact hdigit d (Radix.lt_of_mem_leftpad (by decide) hd) hblank

theorem blank_notMem_of_mem_words {t : Trace} {word : List Char} (h : word ∈ t.words) :
    ' ' ∉ word := by
  simp only [words, List.mem_cons, List.mem_append, List.mem_map] at h
  rcases h with rfl | rfl | rfl | ⟨b, -, rfl⟩ | rfl | ⟨v, -, rfl⟩
  · decide
  · exact blank_notMem_field _
  · decide
  · cases b with
    | none => decide
    | some b => exact blank_notMem_field _
  · decide
  · exact blank_notMem_field _

/-- The words of a line are told apart by its blanks. -/
theorem words_line (t : Trace) : Text.words t.line = t.words := by
  rw [Text.words, toList_line]
  exact List.splitOn_intercalate ' ' (fun _ => blank_notMem_of_mem_words) (List.cons_ne_nil _ _)

theorem readHex_codeField (b : Option Byte) : Text.readHex (codeField b) = b.map BitVec.toNat := by
  cases b with
  | none => decide
  | some b => exact Text.readHex_field _

theorem codeField_eq_dashes_iff {b : Option Byte} : codeField b = ['-', '-'] ↔ b = none := by
  constructor
  · intro h
    have hread := readHex_codeField b
    rw [h] at hread
    exact Option.map_eq_none_iff.1 hread.symm
  · rintro rfl
    rfl

theorem length_codeFields (t : Trace) : (t.code.toList.map codeField).length = 3 := by
  rw [List.length_map, Vector.length_toList]

theorem length_words (t : Trace) : t.words.length = 15 := by
  rw [words, List.length_cons, List.length_cons, List.length_cons, List.length_append, length_codeFields,
    List.length_cons, List.length_map, Vector.length_toList]

theorem word_counter (t : Trace) : t.words[1]? = some (Radix.field t.pc) := rfl

theorem word_code (t : Trace) {i : Nat} (hi : i < 3) :
    t.words[3 + i]? = some (codeField t.code[i]) := by
  have hlength : i < (t.code.toList.map codeField).length := t.length_codeFields.symm ▸ hi
  rw [Nat.add_comm]
  show (t.code.toList.map codeField ++ _)[i]? = _
  rw [List.getElem?_append_left hlength, List.getElem?_eq_getElem hlength, List.getElem_map,
    Vector.getElem_toList]

theorem word_register (t : Trace) (r : Reg) :
    t.words[7 + r.val]? = some (Radix.field (t.values.get r).toNat) := by
  have hlength : r.val < (t.values.toList.map fun v => Radix.field v.toNat).length := by
    rw [List.length_map, Vector.length_toList]
    exact r.isLt
  have hskip : 7 + r.val = 4 + r.val + 3 := by omega
  have hafter : 3 ≤ 4 + r.val := by omega
  have hplace : 4 + r.val - 3 = r.val + 1 := by omega
  rw [hskip]
  show (t.code.toList.map codeField ++ _)[4 + r.val]? = _
  rw [List.getElem?_append_right (t.length_codeFields.symm ▸ hafter), t.length_codeFields, hplace,
    List.getElem?_cons_succ, List.getElem?_eq_getElem hlength, List.getElem_map,
    Vector.getElem_toList]
  rfl

end Trace

namespace Machine

/-- The machine can be read off the words of the line: its counter off the second one, the bytes from
the counter on off the fourth to the sixth, and the registers off the last eight. A byte is told by
two dashes exactly if there is none, its place being outside memory. -/
structure ShownIn (m : Machine) (line : String) : Prop where
  length : (Text.words line).length = 15
  counter : (Text.words line)[1]?.bind Text.readHex = some m.pc
  code : ∀ i < 3, (Text.words line)[3 + i]?.bind Text.readHex =
    (m.memory.get? (m.pc + i)).map BitVec.toNat
  outside : ∀ i < 3, (Text.words line)[3 + i]? = some ['-', '-'] ↔ 256 ≤ m.pc + i
  registers : ∀ r : Reg, (Text.words line)[7 + r.val]?.bind Text.readHex = some (m.reg r).toNat

variable {m n : Machine} {line : String}

theorem code_trace (m : Machine) {i : Nat} (hi : i < 3) :
    m.trace.code[i] = m.memory.get? (m.pc + i) := by
  match i, hi with
  | 0, _ => rfl
  | 1, _ => rfl
  | 2, _ => rfl

theorem shownIn_trace (m : Machine) : m.ShownIn m.trace.line := by
  have hwords : Text.words m.trace.line = m.trace.words := m.trace.words_line
  constructor
  · rw [hwords, Trace.length_words]
  · rw [hwords, Trace.word_counter]
    exact Text.readHex_field m.pc
  · intro i hi
    rw [hwords, Trace.word_code _ hi, code_trace m hi]
    exact Trace.readHex_codeField _
  · intro i hi
    rw [hwords, Trace.word_code _ hi, code_trace m hi, Option.some_inj,
      Trace.codeField_eq_dashes_iff, Memory.get?_eq_none_iff]
  · intro r
    rw [hwords, Trace.word_register]
    exact Text.readHex_field _

/-- Machines that are read off the same line agree in what it shows. -/
theorem ShownIn.agree (hm : m.ShownIn line) (hn : n.ShownIn line) :
    m.pc = n.pc ∧ (∀ r, m.reg r = n.reg r) ∧
      ∀ i < 3, m.memory.get? (m.pc + i) = n.memory.get? (n.pc + i) := by
  have hbytes : Function.Injective (BitVec.toNat : Byte → Nat) := fun _ _ => BitVec.eq_of_toNat_eq
  refine ⟨?_, ?_, ?_⟩
  · exact Option.some.inj (hm.counter.symm.trans hn.counter)
  · intro r
    exact hbytes (Option.some.inj ((hm.registers r).symm.trans (hn.registers r)))
  · intro i hi
    exact Option.map_injective hbytes ((hm.code i hi).symm.trans (hn.code i hi))

/-- The trace line of a machine shows it, wherever its counter is, and so machines with equal lines
agree in their counters, in all registers and in the three places that the line shows, be they
inside memory or not. -/
theorem determined_by_trace (m n : Machine) :
    m.ShownIn m.trace.line ∧
      (m.trace.line = n.trace.line →
        m.pc = n.pc ∧ (∀ r, m.reg r = n.reg r) ∧
          ∀ i < 3, m.memory.get? (m.pc + i) = n.memory.get? (n.pc + i)) := by
  refine ⟨m.shownIn_trace, ?_⟩
  intro hline
  have hn : n.ShownIn m.trace.line := hline ▸ n.shownIn_trace
  exact m.shownIn_trace.agree hn

/-- Two machines at the last address, of which only one has a flag set and a byte further down. -/
theorem determined_by_trace_last :
    let m := ((fresh .unbounded).store 255 0xAB).goto 255
    let n := (m.store 7 9).setFlags 4
    m ≠ n ∧ m.trace.line = n.trace.line ∧
      (m.pc = n.pc ∧ (∀ r, m.reg r = n.reg r) ∧
        ∀ i < 3, m.memory.get? (m.pc + i) = n.memory.get? (n.pc + i)) ∧
      (Text.words n.trace.line)[3]?.bind Text.readHex = some 0xAB ∧
      (Text.words n.trace.line)[4]? = some ['-', '-'] := by
  intro m n
  have hline : m.trace.line = n.trace.line := congrArg Trace.line (by decide +kernel)
  have hbyte : n.memory.get? (n.pc + 0) = some 0xAB := by decide +kernel
  obtain ⟨-, hagree⟩ := determined_by_trace m n
  obtain ⟨hshown, -⟩ := determined_by_trace n m
  have hne : m ≠ n := fun h => absurd (congrArg (fun k => k.regs.flags) h) (by decide)
  refine ⟨hne, hline, hagree hline, ?_, ?_⟩
  · exact (hshown.code 0 (by decide)).trans (congrArg _ hbyte)
  · exact (hshown.outside 1 (by decide)).2 (by decide +kernel)

end Machine

end ByteMachine
