import ByteMachine.Text.Span

/-! Sets of characters and the operations of set algebra on them. The spans of a set ascend with
gaps between them, so that equal sets have equal spans. -/

namespace ByteMachine.Text

/-- The spans without what lies from `a` to `b`. -/
def Spans.erase (spans : Spans) (a b : Nat) : Spans :=
  spans.flatMap fun (x, y) =>
    (if x < a then [(x, min y (a - 1))] else []) ++ if b < y then [(max x (b + 1), y)] else []

theorem Spans.contains_erase (spans : Spans) (a b : Nat) (c : Char) :
    (spans.erase a b).contains c = (spans.contains c && !(a ≤ c.toNat && c.toNat ≤ b)) := by
  induction spans with
  | nil => rfl
  | cons span spans ih =>
    obtain ⟨x, y⟩ := span
    simp only [Spans.erase, Spans.contains, List.flatMap_cons, List.any_append, List.any_cons] at *
    rw [ih]
    by_cases hx : x < a <;> by_cases hy : b < y <;> simp [hx, hy] <;> grind

structure CharSet where
  spans : Spans
  deriving DecidableEq, Repr

namespace CharSet

def contains (s : CharSet) (c : Char) : Bool := s.spans.contains c

def empty : CharSet := ⟨[]⟩

/-- All characters; between the spans lie the code points of surrogates. -/
def all : CharSet := ⟨[(0, 0xd7ff), (0xe000, 0x10ffff)]⟩

def diff (s t : CharSet) : CharSet := ⟨t.spans.foldl (fun spans (a, b) => spans.erase a b) s.spans⟩

def compl (s : CharSet) : CharSet := all.diff s

def union (s t : CharSet) : CharSet := (s.compl.diff t).compl

def inter (s t : CharSet) : CharSet := s.diff t.compl

def symmDiff (s t : CharSet) : CharSet := (s.union t).diff (s.inter t)

/-- The characters from `a` to `b`. -/
def range (a b : Char) : CharSet := inter all ⟨[(a.toNat, b.toNat)]⟩

def single (c : Char) : CharSet := ⟨[(c.toNat, c.toNat)]⟩

def unions (sets : List CharSet) : CharSet := (sets.foldl diff all).compl

theorem contains_diff (s t : CharSet) (c : Char) :
    (s.diff t).contains c = (s.contains c && !t.contains c) := by
  obtain ⟨s⟩ := s
  obtain ⟨t⟩ := t
  simp only [contains, diff]
  induction t generalizing s with
  | nil => simp [Spans.contains]
  | cons span t ih =>
    rw [List.foldl_cons, ih, Spans.contains_erase, Bool.and_assoc, ← Bool.not_or]
    rfl

theorem contains_all (c : Char) : all.contains c = true := by
  have := c.valid
  simp only [UInt32.isValidChar, Nat.isValidChar] at this
  simp only [contains, all, Spans.contains, Char.toNat, List.any_cons, List.any_nil]
  grind

theorem contains_compl (s : CharSet) (c : Char) : s.compl.contains c = !s.contains c := by
  rw [compl, contains_diff, contains_all, Bool.true_and]

theorem contains_union (s t : CharSet) (c : Char) :
    (s.union t).contains c = (s.contains c || t.contains c) := by
  simp [union, contains_compl, contains_diff]

theorem contains_inter (s t : CharSet) (c : Char) :
    (s.inter t).contains c = (s.contains c && t.contains c) := by
  simp [inter, contains_compl, contains_diff]

theorem contains_symmDiff (s t : CharSet) (c : Char) :
    (s.symmDiff t).contains c = (s.contains c ^^ t.contains c) := by
  rw [symmDiff, contains_diff, contains_union, contains_inter]
  cases s.contains c <;> cases t.contains c <;> rfl

theorem contains_range (a b c : Char) :
    (range a b).contains c = (a.toNat ≤ c.toNat && c.toNat ≤ b.toNat) := by
  rw [range, contains_inter, contains_all]
  simp [contains, Spans.contains]

theorem contains_unions (sets : List CharSet) (c : Char) :
    (unions sets).contains c = sets.any fun s => s.contains c := by
  have h (s : CharSet) :
      (sets.foldl diff s).contains c = (s.contains c && !sets.any fun s => s.contains c) := by
    induction sets generalizing s with
    | nil => simp
    | cons t sets ih => rw [List.foldl_cons, ih, contains_diff]; simp [Bool.and_assoc]
  rw [unions, contains_compl, h, contains_all, Bool.true_and, Bool.not_not]

def isAscii (s : CharSet) : Bool := s.spans.all fun span => span.2 < 0x80

/-- The only character of the set. -/
def only? (s : CharSet) : Option Char :=
  match s.spans with
  | [(a, b)] => if a = b then some (Char.ofNat a) else none
  | _ => none

/-! The classes of ASCII. -/

def digit : CharSet := ⟨[(0x30, 0x39)]⟩
def lower : CharSet := ⟨[(0x61, 0x7a)]⟩
def upper : CharSet := ⟨[(0x41, 0x5a)]⟩
def alpha : CharSet := union upper lower
def alnum : CharSet := union digit alpha
def word : CharSet := union alnum (single '_')
def space : CharSet := ⟨[(0x09, 0x0d), (0x20, 0x20)]⟩
def graph : CharSet := ⟨[(0x21, 0x7e)]⟩

/-- What differs from a member at most by the case of an ASCII letter. -/
def anyCase (s : CharSet) : CharSet :=
  let shifted (t : CharSet) (f : Nat → Nat) : CharSet :=
    ⟨(s.inter t).spans.map fun (a, b) => (f a, f b)⟩
  (s.union (shifted lower (· - 0x20))).union (shifted upper (· + 0x20))

/-- The class of a name. -/
def named? (name : String) : Option CharSet :=
  match name with
  | "alnum" => some alnum
  | "alpha" => some alpha
  | "ascii" => some ⟨[(0x00, 0x7f)]⟩
  | "blank" => some ⟨[(0x09, 0x09), (0x20, 0x20)]⟩
  | "cntrl" => some ⟨[(0x00, 0x1f), (0x7f, 0x7f)]⟩
  | "digit" => some digit
  | "graph" => some graph
  | "lower" => some lower
  | "print" => some ⟨[(0x20, 0x7e)]⟩
  | "punct" => some (diff graph alnum)
  | "space" => some space
  | "upper" => some upper
  | "word" => some word
  | "xdigit" => some ⟨[(0x30, 0x39), (0x41, 0x46), (0x61, 0x66)]⟩
  | _ => none

end CharSet

end ByteMachine.Text
