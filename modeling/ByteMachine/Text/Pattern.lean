import ByteMachine.Text.CharSet

/-! Patterns to search a line of ASCII text for. A pattern leads from places in the text, counted
in characters from its start, to the places where a part that fits it can end. -/

namespace ByteMachine.Text

/-- Conditions on a place by the words beside it. -/
inductive WordEdge where
  /-- A word starts or ends here. -/
  | boundary
  | noBoundary
  | wordStart
  | wordEnd
  | noWordBefore
  | noWordAfter
  deriving DecidableEq, Repr

inductive Assertion where
  | textStart
  | textEnd
  | lineStart
  | lineEnd
  /-- Words are of ASCII letters alone if `ascii` is set, and else of all letters there are. -/
  | word (edge : WordEdge) (ascii : Bool)
  deriving DecidableEq, Repr

def WordEdge.holds (edge : WordEdge) (wordBefore wordAfter : Bool) : Bool :=
  match edge with
  | .boundary => wordBefore != wordAfter
  | .noBoundary => wordBefore == wordAfter
  | .wordStart => !wordBefore && wordAfter
  | .wordEnd => wordBefore && !wordAfter
  | .noWordBefore => !wordBefore
  | .noWordAfter => !wordAfter

/-- Whether the condition holds between the two characters, of which the ends of the text have but
one. The text is a single line. -/
def Assertion.holds (a : Assertion) (before after : Option Char) : Bool :=
  match a with
  | .textStart | .lineStart => before.isNone
  | .textEnd | .lineEnd => after.isNone
  | .word edge _ => edge.holds (before.any CharSet.word.contains) (after.any CharSet.word.contains)

inductive Pattern where
  | empty
  | literal (chars : List Char)
  | one (set : CharSet)
  | assertion (a : Assertion)
  /-- A part to refer to. What tells it from others is the place of its parenthesis. -/
  | capture (place : Nat) (p : Pattern)
  | seq (p q : Pattern)
  | alt (p q : Pattern)
  /-- At least `least` times in a row, and at most `most` times if that is given; `greedy` prefers
  more to less, which makes no difference to a search. -/
  | times (p : Pattern) (least : Nat) (most : Option Nat) (greedy : Bool)
  deriving DecidableEq, Repr

namespace Pattern

/-- What `step` leads to from `places` in exactly `n` steps. What a step leaves as it is stays as it
is. -/
def power (step : List Nat → List Nat) : (n : Nat) → (places : List Nat) → List Nat
  | 0, places => places
  | n + 1, places =>
    let next := step places
    if next = places then places else power step n next

/-- What `step` leads to from `places` in up to `n` steps. -/
def closure (step : List Nat → List Nat) : (n : Nat) → (places : List Nat) → List Nat
  | 0, places => places
  | n + 1, places =>
    match (step places).filter fun i => !places.contains i with
    | [] => places
    | found => closure step n (places ++ found)

/-- Whether the characters stand in the text from the place on. -/
def standAt (text : Array Char) : List Char → (place : Nat) → Bool
  | [], _ => true
  | c :: chars, i => text[i]? == some c && standAt text chars (i + 1)

/-- The places where parts that fit the pattern can end, for parts that start at `places`. More
repetitions than the text has places lead nowhere else. -/
def ends (text : Array Char) : Pattern → (places : List Nat) → List Nat
  | .empty, places => places
  | .literal chars, places =>
    (places.filter (standAt text chars)).map (· + chars.length)
  | .one set, places =>
    (places.filter fun i => text[i]?.any set.contains).map (· + 1)
  | .assertion a, places =>
    places.filter fun i => a.holds (if i = 0 then none else text[i - 1]?) text[i]?
  | .capture _ p, places => p.ends text places
  | .seq p q, places => q.ends text (p.ends text places)
  | .alt p q, places =>
    let first := p.ends text places
    first ++ (q.ends text places).filter fun i => !first.contains i
  | .times p least most _, places =>
    let bound := text.size + 1
    let first := power (p.ends text) (min least bound) places
    match most with
    | none => closure (p.ends text) bound first
    | some most => closure (p.ends text) (min (most - least) bound) first

/-- Whether some part of the text fits the pattern. -/
def occursIn (p : Pattern) (text : String) : Bool :=
  let chars := text.toList.toArray
  !(p.ends chars (List.range (chars.size + 1))).isEmpty

/-! How many characters fit a pattern. -/

def minLength : Pattern → Option Nat
  | .empty | .assertion _ => some 0
  | .literal chars => some chars.length
  | .one set => if set = .empty then none else some 1
  | .capture _ p => p.minLength
  | .seq p q => do return (← p.minLength) + (← q.minLength)
  | .alt p q => do return min (← p.minLength) (← q.minLength)
  | .times p least _ _ => p.minLength.map (least * ·)

def maxLength : Pattern → Option Nat
  | .empty | .assertion _ => some 0
  | .literal chars => some chars.length
  | .one set => if set = .empty then none else some 1
  | .capture _ p => p.maxLength
  | .seq p q => do return (← p.maxLength) + (← q.maxLength)
  | .alt p q => do return max (← p.maxLength) (← q.maxLength)
  | .times p _ most _ => do return (← most) * (← p.maxLength)

end Pattern

end ByteMachine.Text
