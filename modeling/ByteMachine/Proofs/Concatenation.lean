import ByteMachine.Proofs.Loading

/-! One source behind another. If the first one ends with a line ending, the two together hold the
lines of the first and then those of the second, and so the bytes of both. -/

namespace ByteMachine

namespace Text

theorem ended_of_append {front rest : List Char}
    (h : front ++ '\n' :: rest = [] ∨ (front ++ '\n' :: rest).getLast? = some '\n') :
    rest = [] ∨ rest.getLast? = some '\n' := by
  cases rest with
  | nil => exact .inl rfl
  | cons c rest =>
    have hlast := h.resolve_left (by simp)
    rw [List.getLast?_append_cons, List.getLast?_cons_cons] at hlast
    exact .inr hlast

theorem Splits.append {s t : List Char} {ls ms : List (List Char)} (hs : Splits s ls)
    (hend : s = [] ∨ s.getLast? = some '\n') (ht : Splits t ms) : Splits (s ++ t) (ls ++ ms) := by
  induction hs with
  | nil => exact ht
  | unended hne hnew => exact absurd (List.mem_of_getLast? (hend.resolve_left hne)) hnew
  | @newline line rest ls hnew hlast _ ih =>
    rw [List.append_assoc, List.cons_append]
    exact .newline hnew hlast (ih (ended_of_append hend))
  | @returnNewline line rest ls hnew _ ih =>
    have hrest : rest = [] ∨ rest.getLast? = some '\n' := by
      rw [← List.singleton_append, ← List.append_assoc] at hend
      exact ended_of_append hend
    rw [List.append_assoc, List.cons_append, List.cons_append]
    exact .returnNewline hnew (ih hrest)

end Text

namespace Program

/-- The line as it is numbered with `k` more lines above it. -/
def CodeLine.shift (k : Nat) (line : CodeLine) : CodeLine := { line with number := k + line.number }

variable {n : Nat} {ls ms : List (List Char)} {code more : List CodeLine}

theorem Lists.append (h : Lists n ls code) (h' : Lists (n + ls.length) ms more) :
    Lists n (ls ++ ms) (code ++ more) := by
  have hnext {n k : Nat} : n + (k + 1) = n + 1 + k := by omega
  induction h with
  | nil => exact h'
  | skipped hline _ ih => exact .skipped hline (ih (by rwa [List.length_cons, hnext] at h'))
  | code hline htext _ ih => exact .code hline htext (ih (by rwa [List.length_cons, hnext] at h'))

theorem Lists.shift (h : Lists n ls code) (k : Nat) :
    Lists (k + n) ls (code.map (CodeLine.shift k)) := by
  induction h with
  | nil => exact .nil
  | skipped hline _ ih => exact .skipped hline ih
  | code hline htext _ ih => exact .code hline htext ih

/-- How many lines a source has. -/
def lineCount (source : String) : Nat := (Text.lines source.toList).length

/-- How many of them start with a binary digit. -/
def codeCount (source : String) : Nat :=
  (Text.lines source.toList).countP fun line => StartsWithBit line

theorem Lists.length_code (h : Lists n ls code) :
    code.length = ls.countP fun line => StartsWithBit line := by
  induction h with
  | nil => rfl
  | skipped hline _ ih => rw [ih, List.countP_cons_of_neg (by simpa using hline)]
  | code hline _ _ ih => rw [List.length_cons, ih, List.countP_cons_of_pos (by simpa using hline)]

theorem firstBad?_append (code more : List CodeLine) :
    firstBad? (code ++ more) = (firstBad? code).or (firstBad? more) :=
  List.find?_append

theorem firstBad?_shift (k : Nat) (code : List CodeLine) :
    firstBad? (code.map (CodeLine.shift k)) = (firstBad? code).map (CodeLine.shift k) :=
  List.find?_map

theorem bytes_append (code more : List CodeLine) : bytes (code ++ more) = bytes code ++ bytes more :=
  List.map_append

theorem bytes_shift (k : Nat) (code : List CodeLine) :
    bytes (code.map (CodeLine.shift k)) = bytes code :=
  List.map_map

namespace Reads

variable {s t : String}

theorem length_eq (h : Reads s code) : code.length = codeCount s := by
  obtain ⟨ls, hsplits, hlists⟩ := h
  obtain rfl := Text.splits_iff.1 hsplits
  exact hlists.length_code

theorem append (hs : Reads s code) (hend : s = "" ∨ s.toList.getLast? = some '\n')
    (ht : Reads t more) : Reads (s ++ t) (code ++ more.map (CodeLine.shift (lineCount s))) := by
  obtain ⟨ls, hsplits, hlists⟩ := hs
  obtain ⟨ms, hsplits', hlists'⟩ := ht
  have hends : s.toList = [] ∨ s.toList.getLast? = some '\n' :=
    hend.imp_left fun hempty => by rw [hempty]; rfl
  have hcount : lineCount s = ls.length := by rw [lineCount, Text.splits_iff.1 hsplits]
  refine ⟨ls ++ ms, ?_, ?_⟩
  · rw [String.toList_append]
    exact hsplits.append hends hsplits'
  · rw [hcount]
    refine hlists.append ?_
    rw [Nat.add_comm]
    exact hlists'.shift ls.length

theorem parse_eq_invalidByte_iff (h : Reads s code) {line : Nat} {text : List Char} :
    parse s = .error (.invalidByte line text) ↔ firstBad? code = some ⟨line, text⟩ := by
  rw [h.parse_eq_error_iff]
  constructor
  · rintro (⟨bad, hbad, herror⟩ | ⟨-, -, herror⟩)
    · cases herror
      exact hbad
    · cases herror
  · exact fun hbad => .inl ⟨_, hbad, rfl⟩

theorem firstBad?_eq_none (h : Reads s code)
    (hgood : ∀ line text, parse s ≠ .error (.invalidByte line text)) : firstBad? code = none := by
  cases hbad : firstBad? code with
  | none => rfl
  | some bad => exact absurd (h.parse_eq_invalidByte_iff.2 hbad) (hgood bad.number bad.text)

end Reads

/-- If the first of two sources holds a line that is no byte, so do both together, at the same place.
If only the second one does, that line has the lines of the first above it. If neither does, the
program of both together is that of the first and then that of the second, provided that it fits. -/
theorem parse_append {s : String} (hend : s = "" ∨ s.toList.getLast? = some '\n') (t : String) :
    (∀ line text, parse s = .error (.invalidByte line text) →
      parse (s ++ t) = .error (.invalidByte line text)) ∧
    ((∀ line text, parse s ≠ .error (.invalidByte line text)) →
      (∀ line text, parse t = .error (.invalidByte line text) →
        parse (s ++ t) = .error (.invalidByte (lineCount s + line) text)) ∧
      ((∀ line text, parse t ≠ .error (.invalidByte line text)) →
        (256 < codeCount s + codeCount t →
          parse (s ++ t) = .error (.tooLarge (codeCount s + codeCount t))) ∧
        (codeCount s + codeCount t ≤ 256 → ∃ p q, parse s = .ok p ∧ parse t = .ok q ∧
          p.length = codeCount s ∧ q.length = codeCount t ∧ parse (s ++ t) = .ok (p ++ q)))) := by
  obtain ⟨code, hs⟩ := exists_reads s
  obtain ⟨more, ht⟩ := exists_reads t
  have hboth := hs.append hend ht
  have hbad := firstBad?_append code (more.map (CodeLine.shift (lineCount s)))
  rw [firstBad?_shift] at hbad
  refine ⟨?_, fun hgood => ⟨?_, fun hgood' => ?_⟩⟩
  · intro line text hline
    rw [hs.parse_eq_invalidByte_iff] at hline
    rw [hboth.parse_eq_invalidByte_iff, hbad, hline, Option.some_or]
  · intro line text hline
    rw [ht.parse_eq_invalidByte_iff] at hline
    rw [hboth.parse_eq_invalidByte_iff, hbad, hs.firstBad?_eq_none hgood, hline]
    rfl
  · have hnone := hs.firstBad?_eq_none hgood
    have hnone' := ht.firstBad?_eq_none hgood'
    rw [hnone, hnone', Option.map_none, Option.or_none] at hbad
    have hparse := hboth.parse_eq
    rw [hbad, List.length_append, List.length_map, hs.length_eq, ht.length_eq, bytes_append,
      bytes_shift] at hparse
    refine ⟨fun hlarge => hparse.trans (if_pos hlarge), fun hfits => ?_⟩
    have hs_eq := hs.parse_eq
    have ht_eq := ht.parse_eq
    rw [hnone, hs.length_eq] at hs_eq
    rw [hnone', ht.length_eq] at ht_eq
    exact ⟨bytes code, bytes more, hs_eq.trans (if_neg (by omega)), ht_eq.trans (if_neg (by omega)),
      (length_bytes code).trans hs.length_eq, (length_bytes more).trans ht.length_eq,
      hparse.trans (if_neg (by omega))⟩

theorem ended_ones (n : Nat) : ones n = "" ∨ (ones n).toList.getLast? = some '\n' := by
  cases n with
  | zero => exact .inl rfl
  | succ n =>
    right
    rw [ones, String.toList_ofList, List.replicate_succ', List.flatten_append, List.flatten_singleton,
      List.getLast?_append_cons]
    rfl

theorem lineCount_ones (n : Nat) : lineCount (ones n) = n := by
  rw [lineCount, ones, String.toList_ofList, lines_ones, List.length_replicate]

theorem codeCount_ones (n : Nat) : codeCount (ones n) = n := by
  have hbit : StartsWithBit ['1'] := by decide
  rw [codeCount, ones, String.toList_ofList, lines_ones, List.countP_replicate]
  simp [hbit]

/-- A line that is no byte comes before a size that is too large, and sizes add up. -/
theorem parse_append_ones :
    (ones 257 = "" ∨ (ones 257).toList.getLast? = some '\n') ∧
      parse (ones 257) = .error (.tooLarge 257) ∧
      parse "0 # zero\n12" = .error (.invalidByte 2 "12".toList) ∧
      parse (ones 257 ++ "0 # zero\n12") = .error (.invalidByte 259 "12".toList) ∧
      parse (ones 200 ++ ones 57) = .error (.tooLarge 257) ∧
      parse (ones 200 ++ ones 56) = .ok (List.replicate 200 1 ++ List.replicate 56 1) := by
  have hones (n : Nat) (line : Nat) (text : List Char) :
      parse (ones n) ≠ .error (.invalidByte line text) := by
    rw [parse_ones]
    split <;> simp
  have htail : parse "0 # zero\n12" = .error (.invalidByte 2 "12".toList) := by decide +kernel
  have hlarge : parse (ones 257) = .error (.tooLarge 257) := parse_ones 257
  obtain ⟨hbad, -⟩ := (parse_append (ended_ones 257) "0 # zero\n12").2 (hones 257)
  obtain ⟨-, hgood⟩ := (parse_append (ended_ones 200) (ones 57)).2 (hones 200)
  obtain ⟨-, hgood'⟩ := (parse_append (ended_ones 200) (ones 56)).2 (hones 200)
  refine ⟨ended_ones 257, hlarge, htail, ?_, ?_, ?_⟩
  · have hboth := hbad 2 _ htail
    rwa [lineCount_ones] at hboth
  · have hboth := (hgood (hones 57)).1
    rw [codeCount_ones, codeCount_ones] at hboth
    exact hboth (by decide)
  · have hboth := (hgood' (hones 56)).2
    rw [codeCount_ones, codeCount_ones] at hboth
    obtain ⟨p, q, hp, hq, -, -, hpq⟩ := hboth (by decide)
    obtain rfl : List.replicate 200 1 = p := Except.ok.inj ((parse_ones 200).symm.trans hp)
    obtain rfl : List.replicate 56 1 = q := Except.ok.inj ((parse_ones 56).symm.trans hq)
    exact hpq

end Program

end ByteMachine
