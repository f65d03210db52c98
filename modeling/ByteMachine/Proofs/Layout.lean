import ByteMachine.Text.Blank
import ByteMachine.Text.Line
import Mathlib.Data.List.TakeWhile

/-! How a text is laid out: in lines, each with its ending, and in what stands between the blanks at
its two ends. Both are told here without saying how they are found. -/

namespace ByteMachine.Text

/-- `Splits text ls`: the text consists of the lines `ls`, each ended by a line feed with or without
a carriage return before it. The ending of the last line may be left out unless the line is empty. -/
inductive Splits : List Char → List (List Char) → Prop where
  | nil : Splits [] []
  | unended {line : List Char} : line ≠ [] → '\n' ∉ line → Splits line [line]
  | newline {line rest : List Char} {ls : List (List Char)} : '\n' ∉ line →
    line.getLast? ≠ some '\r' → Splits rest ls → Splits (line ++ '\n' :: rest) (line :: ls)
  | returnNewline {line rest : List Char} {ls : List (List Char)} : '\n' ∉ line →
    Splits rest ls → Splits (line ++ '\r' :: '\n' :: rest) (line :: ls)

/-- A character goes to the front of the first line, unless it starts a line ending. -/
theorem lines_cons {c : Char} {rest : List Char} (hc : c ≠ '\n')
    (hr : c = '\r' → rest.head? ≠ some '\n') :
    lines (c :: rest) =
      match lines rest with
      | [] => [[c]]
      | line :: more => (c :: line) :: more := by
  refine lines.eq_4 c rest hc ?_
  rintro rest' rfl rfl
  exact hr rfl rfl

theorem Splits.cons {c : Char} {text line : List Char} {ls : List (List Char)} (hc : c ≠ '\n')
    (hr : c = '\r' → text.head? ≠ some '\n') (h : Splits text (line :: ls)) :
    Splits (c :: text) ((c :: line) :: ls) := by
  have hmem {l : List Char} (hl : '\n' ∉ l) : '\n' ∉ c :: l := by
    rw [List.mem_cons, not_or]
    exact ⟨hc.symm, hl⟩
  cases h with
  | unended _ hnew => exact .unended (List.cons_ne_nil _ _) (hmem hnew)
  | newline hnew hlast hrest =>
    rw [← List.cons_append]
    refine .newline (hmem hnew) ?_ hrest
    cases line with
    | nil =>
      intro hc'
      exact hr (Option.some.inj hc') rfl
    | cons d l => rwa [List.getLast?_cons_cons]
  | returnNewline hnew hrest =>
    rw [← List.cons_append]
    exact .returnNewline (hmem hnew) hrest

theorem splits_lines (text : List Char) : Splits text (lines text) := by
  fun_induction lines text with
  | case1 => exact .nil
  | case2 rest ih =>
    rw [← List.nil_append ('\n' :: rest)]
    exact .newline List.not_mem_nil (by simp) ih
  | case3 rest ih =>
    rw [← List.nil_append ('\r' :: '\n' :: rest)]
    exact .returnNewline List.not_mem_nil ih
  | case4 c rest hc hr hnil ih =>
    rw [hnil] at ih
    cases ih
    exact .unended (List.cons_ne_nil _ _) (by simpa using fun e => hc e.symm)
  | case5 c rest hc hr line more hcons ih =>
    rw [hcons] at ih
    refine ih.cons hc fun hret hhead => ?_
    obtain ⟨rest', rfl⟩ := List.head?_eq_some_iff.1 hhead
    exact hr rest' hret rfl

theorem lines_of_newline_notMem {line : List Char} (hne : line ≠ []) (h : '\n' ∉ line) :
    lines line = [line] := by
  induction line with
  | nil => exact absurd rfl hne
  | cons c line ih =>
    rw [List.mem_cons, not_or] at h
    have hhead : line.head? ≠ some '\n' := fun e => h.2 (List.mem_of_head? e)
    rw [lines_cons (Ne.symm h.1) fun _ => hhead]
    cases line with
    | nil => rfl
    | cons d line => rw [ih (List.cons_ne_nil _ _) h.2]

theorem lines_append_newline {line : List Char} (rest : List Char) (h : '\n' ∉ line)
    (hlast : line.getLast? ≠ some '\r') : lines (line ++ '\n' :: rest) = line :: lines rest := by
  induction line with
  | nil => rfl
  | cons c line ih =>
    rw [List.mem_cons, not_or] at h
    cases line with
    | nil =>
      have hc : c ≠ '\r' := fun e => hlast (congrArg some e)
      rw [List.singleton_append, lines_cons (Ne.symm h.1) fun e => absurd e hc, lines_newline]
    | cons d line =>
      have hhead : (d :: line ++ '\n' :: rest).head? ≠ some '\n' :=
        fun e => h.2 (Option.some.inj e ▸ List.mem_cons_self)
      rw [List.getLast?_cons_cons] at hlast
      rw [List.cons_append, lines_cons (Ne.symm h.1) fun _ => hhead, ih h.2 hlast]

theorem lines_append_return_newline {line : List Char} (rest : List Char) (h : '\n' ∉ line) :
    lines (line ++ '\r' :: '\n' :: rest) = line :: lines rest := by
  induction line with
  | nil => rfl
  | cons c line ih =>
    rw [List.mem_cons, not_or] at h
    -- Even a carriage return at the end of the line is followed by another one.
    have hhead : (line ++ '\r' :: '\n' :: rest).head? ≠ some '\n' := by
      cases line with
      | nil => simp
      | cons d line => exact fun e => h.2 (Option.some.inj e ▸ List.mem_cons_self)
    rw [List.cons_append, lines_cons (Ne.symm h.1) fun _ => hhead, ih h.2]

/-- A text splits in one way. -/
theorem splits_iff {text : List Char} {ls : List (List Char)} :
    Splits text ls ↔ ls = lines text := by
  constructor
  · intro h
    induction h with
    | nil => rfl
    | unended hne hnew => rw [lines_of_newline_notMem hne hnew]
    | newline hnew hlast _ ih => rw [lines_append_newline _ hnew hlast, ih]
    | returnNewline hnew _ ih => rw [lines_append_return_newline _ hnew, ih]
  · rintro rfl
    exact splits_lines text

/-- `text` is `whole` without the blanks at its two ends. -/
structure Trimmed (whole text : List Char) : Prop where
  around : ∃ front back, whole = front ++ text ++ back ∧ (∀ c ∈ front, isBlank c = true) ∧
    ∀ c ∈ back, isBlank c = true
  first : ∀ c, text.head? = some c → isBlank c = false
  last : ∀ c, text.getLast? = some c → isBlank c = false

theorem dropWhile_isBlank_append {front text : List Char} (hfront : ∀ c ∈ front, isBlank c = true)
    (hfirst : ∀ c, text.head? = some c → isBlank c = false) :
    (front ++ text).dropWhile isBlank = text := by
  rw [List.dropWhile_append_of_pos hfront]
  cases text with
  | nil => rfl
  | cons c text => rw [List.dropWhile_cons_of_neg (by simp [hfirst c rfl])]

theorem trimEnd_append {text back : List Char} (hback : ∀ c ∈ back, isBlank c = true)
    (hlast : ∀ c, text.getLast? = some c → isBlank c = false) :
    trimEnd (text ++ back) = text := by
  have hreverse : (back.reverse ++ text.reverse).dropWhile isBlank = text.reverse := by
    apply dropWhile_isBlank_append
    · intro c hc
      exact hback c (List.mem_reverse.1 hc)
    · intro c hc
      rw [List.head?_reverse] at hc
      exact hlast c hc
  rw [trimEnd, List.reverse_append, hreverse, List.reverse_reverse]

theorem isBlank_head?_dropWhile (text : List Char) (c : Char)
    (h : (text.dropWhile isBlank).head? = some c) : isBlank c = false := by
  have hnot := List.head?_dropWhile_not isBlank text
  rwa [h] at hnot

theorem trimmed_trim (whole : List Char) : Trimmed whole (trim whole) := by
  have hrest : ∃ back, whole.dropWhile isBlank = trim whole ++ back ∧
      ∀ c ∈ back, isBlank c = true := by
    refine ⟨((whole.dropWhile isBlank).reverse.takeWhile isBlank).reverse, ?_, ?_⟩
    · rw [trim, trimEnd, ← List.reverse_append, List.takeWhile_append_dropWhile,
        List.reverse_reverse]
    · intro c hc
      exact List.mem_takeWhile_imp (List.mem_reverse.1 hc)
  obtain ⟨back, hwhole, hback⟩ := hrest
  refine ⟨⟨whole.takeWhile isBlank, back, ?_, ?_, hback⟩, ?_, ?_⟩
  · rw [List.append_assoc, ← hwhole, List.takeWhile_append_dropWhile]
  · exact fun c hc => List.mem_takeWhile_imp hc
  · intro c hc
    apply isBlank_head?_dropWhile whole c
    rw [hwhole, List.head?_append, hc]
    rfl
  · intro c hc
    rw [trim, trimEnd, List.getLast?_reverse] at hc
    exact isBlank_head?_dropWhile _ c hc

/-- There is one text between the blanks. -/
theorem trimmed_iff {whole text : List Char} : Trimmed whole text ↔ text = trim whole := by
  constructor
  · rintro ⟨⟨front, back, rfl, hfront, hback⟩, hfirst, hlast⟩
    cases text with
    | nil =>
      have hblank : (front ++ [] ++ back).dropWhile isBlank = [] := by
        rw [List.append_nil, List.dropWhile_append_of_pos hfront,
          List.dropWhile_eq_nil_iff.2 hback]
      rw [trim, hblank]
      rfl
    | cons c text =>
      have hdrop : (front ++ (c :: text) ++ back).dropWhile isBlank = c :: text ++ back := by
        rw [List.append_assoc]
        exact dropWhile_isBlank_append hfront hfirst
      rw [trim, hdrop, trimEnd_append hback hlast]
  · rintro rfl
    exact trimmed_trim whole

end ByteMachine.Text
