import ByteMachine.Proofs.Grammar
import Mathlib.Logic.Relation

/-! Edits of a source that its program does not see: other line endings, comments taken away, blanks
put behind lines, other text on lines that hold no byte. What is read from the source, or what is
wrong with it, stays the same. -/

namespace ByteMachine

namespace Text

/-- The text with a carriage return put before every line feed. -/
def withReturns (text : List Char) : List Char :=
  text.flatMap fun c => if c = '\n' then ['\r', '\n'] else [c]

/-- `EditedBy edit text text'`: every line of `text` is edited, and the line endings stay. A carriage
return before a line feed may be taken as part of the ending or of the line. -/
inductive EditedBy (edit : List Char → List Char → Prop) : List Char → List Char → Prop where
  | nil : EditedBy edit [] []
  | unended {line line' : List Char} : line ≠ [] → '\n' ∉ line → edit line line' →
    EditedBy edit line line'
  | newline {line line' rest rest' : List Char} : '\n' ∉ line → edit line line' →
    EditedBy edit rest rest' → EditedBy edit (line ++ '\n' :: rest) (line' ++ '\n' :: rest')
  | returnNewline {line line' rest rest' : List Char} : '\n' ∉ line → edit line line' →
    EditedBy edit rest rest' →
    EditedBy edit (line ++ '\r' :: '\n' :: rest) (line' ++ '\r' :: '\n' :: rest')

theorem withReturns_of_notMem {line : List Char} (h : '\n' ∉ line) : withReturns line = line := by
  induction line with
  | nil => rfl
  | cons c line ih =>
    rw [List.mem_cons, not_or] at h
    have hrest : withReturns line = line := ih h.2
    rw [withReturns, List.flatMap_cons, if_neg (Ne.symm h.1), ← withReturns, hrest]
    rfl

theorem withReturns_append_newline {line : List Char} (rest : List Char) (h : '\n' ∉ line) :
    withReturns (line ++ '\n' :: rest) = line ++ '\r' :: '\n' :: withReturns rest := by
  have hline := withReturns_of_notMem h
  rw [withReturns] at hline
  rw [withReturns, List.flatMap_append, hline, List.flatMap_cons, if_pos rfl, ← withReturns]
  rfl

/-- The carriage returns can be taken as put at the ends of the lines. -/
theorem editedBy_withReturns (text : List Char) :
    EditedBy (fun line line' => line' = line ∨ line' = line ++ ['\r']) text (withReturns text) := by
  obtain ⟨ls, hsplits⟩ : ∃ ls, Splits text ls := ⟨_, splits_lines text⟩
  induction hsplits with
  | nil => exact .nil
  | unended hne hnew =>
    rw [withReturns_of_notMem hnew]
    exact .unended hne hnew (.inl rfl)
  | @newline line rest ls hnew _ _ ih =>
    have hedited := EditedBy.newline hnew (.inr rfl) ih
    rwa [List.append_assoc, List.singleton_append, ← withReturns_append_newline rest hnew] at hedited
  | @returnNewline line rest ls hnew _ ih =>
    have hnew' : '\n' ∉ line ++ ['\r'] := by simpa using hnew
    have hedited := EditedBy.newline hnew' (.inr rfl) ih
    rw [List.append_assoc (line ++ ['\r'])] at hedited
    rw [List.singleton_append, ← withReturns_append_newline rest hnew'] at hedited
    rwa [List.append_assoc] at hedited

end Text

namespace Program

/-- The two lines hold the same byte, or both hold none, or both the same text that is no byte. -/
structure SameCode (line line' : List Char) : Prop where
  starts : isCode line' = isCode line
  text : isCode line = true → codeText line' = codeText line

theorem SameCode.refl (line : List Char) : SameCode line line := ⟨rfl, fun _ => rfl⟩

theorem isCode_append (line : List Char) {tail : List Char} (h : ¬StartsWithBit tail) :
    isCode (line ++ tail) = isCode line := by
  cases line with
  | nil => exact Bool.eq_false_iff.2 (isCode_iff.not.2 h)
  | cons c line => rfl

theorem not_startsWithBit_of_blank {blanks : List Char}
    (h : ∀ c ∈ blanks, Text.isBlank c = true) : ¬StartsWithBit blanks := by
  rintro ⟨c, hc, hbit⟩
  have hblank := h c (List.mem_of_head? hc)
  have hnot : Text.isBlank c = false := by
    rcases hbit with rfl | rfl <;> decide
  rw [hnot] at hblank
  cases hblank

theorem HasText.append_blanks {line text blanks : List Char} (h : HasText line text)
    (hblanks : ∀ c ∈ blanks, Text.isBlank c = true) : HasText (line ++ blanks) text := by
  obtain ⟨code, comment, rfl, hcode, hcomment, htext⟩ := h
  cases comment with
  | nil =>
    obtain ⟨⟨front, back, rfl, hfront, hback⟩, hfirst, hlast⟩ := htext
    have hmark : '#' ∉ blanks := fun hmem => by cases hblanks '#' hmem
    refine ⟨front ++ text ++ back ++ blanks, [], by simp, ?_, nofun,
      ⟨front, back ++ blanks, by simp, hfront, ?_⟩, hfirst, hlast⟩
    · rw [List.mem_append, not_or]
      exact ⟨hcode, hmark⟩
    · rw [List.forall_mem_append]
      exact ⟨hback, hblanks⟩
  | cons c comment =>
    exact ⟨code, c :: comment ++ blanks, by simp, hcode, hcomment, htext⟩

theorem SameCode.append_blanks (line : List Char) {blanks : List Char}
    (h : ∀ c ∈ blanks, Text.isBlank c = true) : SameCode line (line ++ blanks) where
  starts := isCode_append line (not_startsWithBit_of_blank h)
  text := fun _ => (hasText_iff.1 ((hasText_iff.2 rfl).append_blanks h)).symm

theorem SameCode.append_return (line : List Char) : SameCode line (line ++ ['\r']) :=
  .append_blanks line (List.forall_mem_singleton.2 rfl)

theorem SameCode.uncomment {code : List Char} (comment : List Char) (h : '#' ∉ code) :
    SameCode (code ++ '#' :: comment) code := by
  have hlong : HasText (code ++ '#' :: comment) (Text.trim code) :=
    ⟨code, '#' :: comment, rfl, h, fun _ hc => (Option.some.inj hc).symm, Text.trimmed_trim code⟩
  have hshort : HasText code (Text.trim code) :=
    ⟨code, [], by simp, h, nofun, Text.trimmed_trim code⟩
  have hmark : ¬StartsWithBit ('#' :: comment) := by
    rintro ⟨c, hc, hbit⟩
    obtain rfl := Option.some.inj hc
    rcases hbit with hbit | hbit <;> cases hbit
  exact ⟨(isCode_append code hmark).symm,
    fun _ => (hasText_iff.1 hshort).symm.trans (hasText_iff.1 hlong)⟩

theorem SameCode.ofLines_cons {line line' : List Char} (h : SameCode line line') {n : Nat}
    {ls ls' : List (List Char)} (hrest : ofLines (n + 1) ls' = ofLines (n + 1) ls) :
    ofLines n (line' :: ls') = ofLines n (line :: ls) := by
  rw [ofLines, ofLines, h.starts, hrest]
  split
  · next hcode => rw [h.text hcode]
  · rfl

/-- A last line without an ending holds its byte also if it is empty. -/
theorem ofLines_lines_of_notMem (n : Nat) {line : List Char} (h : '\n' ∉ line) :
    ofLines n (Text.lines line) = ofLines n [line] := by
  cases line with
  | nil => rfl
  | cons c line => rw [Text.lines_of_newline_notMem (List.cons_ne_nil _ _) h]

/-- A carriage return at the end of a line does not count as part of its text, so that it does not
matter whether it belongs to the line. -/
theorem ofLines_lines_newline (n : Nat) {line : List Char} (rest : List Char) (h : '\n' ∉ line) :
    ofLines n (Text.lines (line ++ '\n' :: rest)) = ofLines n (line :: Text.lines rest) := by
  by_cases hlast : line.getLast? = some '\r'
  · obtain ⟨front, rfl⟩ := List.getLast?_eq_some_iff.1 hlast
    have hfront : '\n' ∉ front := fun hmem => h (List.mem_append_left _ hmem)
    rw [List.append_assoc, List.singleton_append, Text.lines_append_return_newline rest hfront]
    exact ((SameCode.append_return front).ofLines_cons rfl).symm
  · rw [Text.lines_append_newline rest h hlast]

/-- Lines that are edited one by one hold the same if each of them does. -/
theorem ofLines_of_editedBy {edit : List Char → List Char → Prop}
    (hedit : ∀ line line', '\n' ∉ line → edit line line' → '\n' ∉ line' ∧ SameCode line line')
    {text text' : List Char} (h : Text.EditedBy edit text text') (n : Nat) :
    ofLines n (Text.lines text') = ofLines n (Text.lines text) := by
  induction h generalizing n with
  | nil => rfl
  | unended _ hnew hline =>
    obtain ⟨hnew', hsame⟩ := hedit _ _ hnew hline
    rw [ofLines_lines_of_notMem n hnew, ofLines_lines_of_notMem n hnew']
    exact hsame.ofLines_cons rfl
  | newline hnew hline _ ih =>
    obtain ⟨hnew', hsame⟩ := hedit _ _ hnew hline
    rw [ofLines_lines_newline n _ hnew, ofLines_lines_newline n _ hnew']
    exact hsame.ofLines_cons (ih (n + 1))
  | returnNewline hnew hline _ ih =>
    obtain ⟨hnew', hsame⟩ := hedit _ _ hnew hline
    rw [Text.lines_append_return_newline _ hnew, Text.lines_append_return_newline _ hnew']
    exact hsame.ofLines_cons (ih (n + 1))

/-- One more line ending ends the last line, or makes an empty one. -/
theorem ofLines_append_ending {ending : List Char} (h : ending = ['\n'] ∨ ending = ['\r', '\n'])
    (text : List Char) (n : Nat) :
    ofLines n (Text.lines (text ++ ending)) = ofLines n (Text.lines text) := by
  obtain ⟨ls, hsplits⟩ : ∃ ls, Text.Splits text ls := ⟨_, Text.splits_lines text⟩
  induction hsplits generalizing n with
  | nil => rcases h with rfl | rfl <;> rfl
  | unended _ hnew =>
    rw [ofLines_lines_of_notMem n hnew]
    rcases h with rfl | rfl
    · exact ofLines_lines_newline n [] hnew
    · rw [Text.lines_append_return_newline [] hnew]
      rfl
  | newline hnew _ _ ih =>
    rw [List.append_assoc, List.cons_append, ofLines_lines_newline n _ hnew,
      ofLines_lines_newline n _ hnew]
    exact (SameCode.refl _).ofLines_cons (ih (n + 1))
  | returnNewline hnew _ ih =>
    rw [List.append_assoc, List.cons_append, List.cons_append,
      Text.lines_append_return_newline _ hnew, Text.lines_append_return_newline _ hnew]
    exact (SameCode.refl _).ofLines_cons (ih (n + 1))

/-- `LineEdit line line'`: the line is left as it is, loses its comment, gets blanks at its end or,
if it holds no byte, makes room for another one that holds none. -/
inductive LineEdit : List Char → List Char → Prop where
  | kept (line : List Char) : LineEdit line line
  | uncommented {code comment : List Char} : '#' ∉ code → LineEdit (code ++ '#' :: comment) code
  | padded {line blanks : List Char} : (∀ c ∈ blanks, Text.isBlank c = true ∧ c ≠ '\n') →
    LineEdit line (line ++ blanks)
  | replaced {line line' : List Char} : ¬StartsWithBit line → ¬StartsWithBit line' →
    '\n' ∉ line' → LineEdit line line'

theorem LineEdit.newline_notMem {line line' : List Char} (h : LineEdit line line')
    (hnew : '\n' ∉ line) : '\n' ∉ line' := by
  cases h with
  | kept => exact hnew
  | uncommented _ => exact fun hmem => hnew (List.mem_append_left _ hmem)
  | padded hblanks =>
    rw [List.mem_append, not_or]
    exact ⟨hnew, fun hmem => (hblanks _ hmem).2 rfl⟩
  | replaced _ _ hnew' => exact hnew'

theorem LineEdit.sameCode {line line' : List Char} (h : LineEdit line line') :
    SameCode line line' := by
  cases h with
  | kept => exact .refl line
  | uncommented hcode => exact .uncomment _ hcode
  | padded hblanks => exact .append_blanks line fun c hc => (hblanks c hc).1
  | replaced hline hline' _ =>
    rw [← isCode_iff, Bool.not_eq_true] at hline hline'
    exact ⟨hline'.trans hline.symm, fun hcode => by rw [hline] at hcode; cases hcode⟩

/-- Edits of a source. -/
inductive Edit : String → String → Prop where
  | returns (source : String) : Edit source (String.ofList (Text.withReturns source.toList))
  | lines {source source' : String} : Text.EditedBy LineEdit source.toList source'.toList →
    Edit source source'
  | ended (source : String) {ending : String} : ending = "\n" ∨ ending = "\r\n" →
    Edit source (source ++ ending)

theorem parse_congr {s t : String}
    (h : ofLines 1 (Text.lines t.toList) = ofLines 1 (Text.lines s.toList)) : parse t = parse s := by
  rw [parse, parse, h]

theorem Edit.parse_eq {s t : String} (h : Edit s t) : parse t = parse s := by
  apply parse_congr
  cases h with
  | returns =>
    rw [String.toList_ofList]
    refine ofLines_of_editedBy ?_ (Text.editedBy_withReturns s.toList) 1
    intro line line' hnew hline
    rcases hline with hsame | hreturn
    · rw [hsame]
      exact ⟨hnew, .refl line⟩
    · rw [hreturn]
      exact ⟨by simpa using hnew, .append_return line⟩
  | lines hlines =>
    exact ofLines_of_editedBy (fun _ _ hnew hline => ⟨hline.newline_notMem hnew, hline.sameCode⟩)
      hlines 1
  | ended hending =>
    rw [String.toList_append]
    refine ofLines_append_ending ?_ s.toList 1
    rcases hending with rfl | rfl
    · exact .inl rfl
    · exact .inr rfl

/-- Edits that are done or undone, in any order, leave the program of a source as it is, and also what
is reported of a source that holds none. -/
theorem parse_eq_of_edits {s t : String} (h : Relation.EqvGen Edit s t) : parse t = parse s := by
  induction h with
  | rel _ _ hedit => exact hedit.parse_eq
  | refl => rfl
  | symm _ _ _ ih => exact ih.symm
  | trans _ _ _ _ _ ih ih' => exact ih'.trans ih

/-- A comment goes, other text stands on a line without a byte, blanks come behind a byte, all line
feeds get carriage returns, and the last line gets an ending. -/
theorem parse_eq_of_edits_untidy :
    Relation.EqvGen Edit "01 # one\nskip\n10\n12" "01 \r\n\r\n10\u00a0\t\r\n12\r\n" ∧
      parse "01 # one\nskip\n10\n12" = .error (.invalidByte 4 "12".toList) ∧
      parse "01 \r\n\r\n10\u00a0\t\r\n12\r\n" = .error (.invalidByte 4 "12".toList) := by
  have hnone : '#' ∉ "01 ".toList := by decide +kernel
  have hcomment : LineEdit ("01 ".toList ++ '#' :: " one".toList) "01 ".toList := .uncommented hnone
  have hskipped : LineEdit "skip".toList [] :=
    .replaced (by decide +kernel) (by decide +kernel) List.not_mem_nil
  have hblanks : ∀ c ∈ "\u00a0\t".toList, Text.isBlank c = true ∧ c ≠ '\n' := by
    have hall : "\u00a0\t".toList.all (fun c => Text.isBlank c && c != '\n') = true := by
      decide +kernel
    simpa only [List.all_eq_true, Bool.and_eq_true, bne_iff_ne] using hall
  have hpadded : LineEdit "10".toList ("10".toList ++ "\u00a0\t".toList) := .padded hblanks
  have hlines : Edit "01 # one\nskip\n10\n12" "01 \n\n10\u00a0\t\n12" :=
    .lines (.newline (by decide +kernel) hcomment (.newline (by decide +kernel) hskipped
      (.newline (by decide +kernel) hpadded
        (.unended (by decide +kernel) (by decide +kernel) (.kept "12".toList)))))
  have hreturns : Edit "01 \n\n10\u00a0\t\n12" "01 \r\n\r\n10\u00a0\t\r\n12" := .returns _
  have hended : Edit "01 \r\n\r\n10\u00a0\t\r\n12" "01 \r\n\r\n10\u00a0\t\r\n12\r\n" :=
    .ended _ (.inr rfl)
  have hedits := Relation.EqvGen.trans _ _ _ (.rel _ _ hlines)
    (.trans _ _ _ (.rel _ _ hreturns) (.rel _ _ hended))
  have hbad : parse "01 # one\nskip\n10\n12" = .error (.invalidByte 4 "12".toList) := by
    decide +kernel
  exact ⟨hedits, hbad, (parse_eq_of_edits hedits).trans hbad⟩

end Program

end ByteMachine
