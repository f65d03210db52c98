import ByteMachine.Text.CharSet

/-! The encoding of a set of characters in UTF-8, as sequences of spans of bytes: a character is in
the set just if its bytes lie in the spans of one of them. -/

namespace ByteMachine.Text.Utf8

abbrev Sequence := List (Nat × Nat)

/-- The numbers from `a` to `b` by spans of their digits to base 64, of which `n + 1` are written.
All but one of the spans of digits are single digits or full. -/
def digitSpans : (n a b : Nat) → List Sequence
  | 0, a, b => [[(a, b)]]
  | n + 1, a, b =>
    let size := 64 ^ (n + 1)
    let first := a / size
    let last := b / size
    if first = last then (digitSpans n (a % size) (b % size)).map ((first, first) :: ·)
    else
      let startsFull := a % size = 0
      let endsFull := b % size = size - 1
      let low := if startsFull then first else first + 1
      let high := if endsFull then last else last - 1
      (if startsFull then []
        else (digitSpans n (a % size) (size - 1)).map ((first, first) :: ·)) ++
      (if low ≤ high then [(low, high) :: List.replicate (n + 1) (0, 63)] else []) ++
      if endsFull then [] else (digitSpans n 0 (b % size)).map ((last, last) :: ·)

/-- The code points that are encoded in so many bytes. -/
structure Length where
  first : Nat
  last : Nat
  more : Nat
  /-- What the first byte adds to its digit. -/
  lead : Nat
  deriving DecidableEq, Repr

def lengths : List Length :=
  [⟨0, 0x7f, 0, 0⟩, ⟨0x80, 0x7ff, 1, 0xc0⟩, ⟨0x800, 0xffff, 2, 0xe0⟩, ⟨0x10000, 0x10ffff, 3, 0xf0⟩]

/-- The bytes of the digits. -/
def Length.bytes (l : Length) : Sequence → Sequence
  | [] => []
  | (a, b) :: rest => (l.lead + a, l.lead + b) :: rest.map fun (a, b) => (0x80 + a, 0x80 + b)

def sequences (s : CharSet) : List Sequence :=
  s.spans.flatMap fun (a, b) => lengths.flatMap fun l =>
    if max a l.first ≤ min b l.last then
      (digitSpans l.more (max a l.first) (min b l.last)).map l.bytes
    else []

end ByteMachine.Text.Utf8
