import ByteMachine.Text.Pattern.Escape

/-! Character classes between brackets: characters, ranges, escapes, named classes and further
brackets, put together by operators from left to right. -/

namespace ByteMachine.Text.Bracket

/-- Members that follow one another, the last one first. -/
structure Members where
  extent : Extent
  items : List ClassTree
  deriving Repr

namespace Members

def none (place : Nat) : Members := ⟨⟨place, place⟩, []⟩

def add (ms : Members) (item : ClassTree) : Members :=
  let first := if ms.items.isEmpty then item.extent.start else ms.extent.start
  ⟨⟨first, item.extent.stop⟩, item :: ms.items⟩

def tree (ms : Members) : ClassTree :=
  match ms.items with
  | [] => .empty ms.extent
  | [item] => item
  | items => .union ms.extent items.reverse

end Members

/-- The beginning of a bracket, up to the place where its members are read on. -/
structure Opening where
  negated : Bool
  /-- The members that would mean something else further on. -/
  members : Members
  start : Nat
  after : Cursor
  deriving Repr

namespace Opening

def unclosed (o : Opening) : PatternError := o.after.since o.start .classUnclosed

/-- The opening with the character at its end for a member. -/
def take (spaced : Bool) (o : Opening) (c : Char) : Opening :=
  let extent := ⟨o.after.place, o.after.place + 1⟩
  { o with
    members := o.members.add (.symbol extent (.letter ⟨c, false⟩))
    after := o.after.next.settle spaced }

/-- Reads dashes that begin a bracket. The fuel is more than the number of characters left. -/
def readDashes (spaced : Bool) (o : Opening) : (fuel : Nat) → Except PatternError Opening
  | 0 => .ok o
  | fuel + 1 =>
    match o.after.rest with
    | '-' :: _ =>
      let o := o.take spaced '-'
      if o.after.rest.isEmpty then .error ⟨.classUnclosed, ⟨o.start, o.start⟩, Option.none⟩
      else readDashes spaced o fuel
    | _ => .ok o

/-- Reads a closing bracket that is a member, since it is the first. -/
def readBracket (spaced : Bool) (o : Opening) : Except PatternError Opening :=
  match o.after.rest, o.members.items with
  | ']' :: _, [] =>
    let o := o.take spaced ']'
    if o.after.rest.isEmpty then .error o.unclosed else .ok o
  | _, _ => .ok o

def read (spaced : Bool) (fuel : Nat) (c : Cursor) : Except PatternError Opening := do
  let first := c.next.settle spaced
  let negated := first.rest.head? = some '^'
  let after := if negated then first.next.settle spaced else first
  if after.rest.isEmpty then .error (after.since c.place .classUnclosed)
  else
    let o ← readDashes spaced ⟨negated, .none after.place, c.place, after⟩ fuel
    readBracket spaced o

end Opening

def readNamed? (c : Cursor) : Option (ClassTree × Cursor) := do
  let inner ← c.past? "[:"
  let negated := inner.rest.head? = some '^'
  let inner := if negated then inner.next else inner
  let name := inner.rest.takeWhile (· ≠ ':')
  let set ← CharSet.named? (String.ofList name)
  let after ← (inner.skip name.length).past? ":]"
  return (.named (c.extent after) set negated, after)

/-- Reads one member, which may turn out to be the end of a range. -/
def readMember (spaced : Bool) (fuel : Nat) (c : Cursor) : Reading Escape :=
  match c.rest with
  | '\\' :: _ => Escape.read spaced fuel c
  | x :: _ => .ok (Escape.letter x, c.next)
  | [] => .error (c.here .classUnclosed)

def member (c stop : Cursor) : Escape → Except PatternError ClassTree
  | .symbol s => .ok (.symbol (c.extent stop) s)
  | .mark _ => .error (stop.since c.place .classEscape)

def rangeEnd (c stop : Cursor) : Escape → Except PatternError (Extent × Letter)
  | .symbol (.letter l) => .ok (c.extent stop, l)
  | _ => .error (stop.since c.place .classRangeEnd)

/-- The character behind the dash at the head of the spelling, as far as the end of a range depends
on it. Among blanks the first hash sign counts as one, too. -/
def behindDash? (spaced : Bool) (rest : List Char) : Option Char :=
  let behind := rest.drop 1
  if spaced then
    let shown := behind.dropWhile isBlank
    let shown :=
      match shown with
      | '#' :: more => more.dropWhile isBlank
      | _ => shown
    shown.head? <|> behind.head?
  else behind.head?

/-- Reads a member, or a range if a dash follows that does neither end the bracket nor begin an
operator. -/
def readRange (spaced : Bool) (fuel : Nat) (o : Opening) (c : Cursor) :
    Except PatternError (ClassTree × Cursor) := do
  let (first, stop) ← readMember spaced fuel c
  let dash := stop.settle spaced
  let behind := behindDash? spaced dash.rest
  if dash.rest.isEmpty then .error o.unclosed
  else if dash.rest.head? ≠ some '-' ∨ behind = some ']' ∨ behind = some '-' then
    return (← member c stop first, dash)
  else
    let second := dash.next.settle spaced
    if second.rest.isEmpty then .error o.unclosed
    else
      let (last, after) ← readMember spaced fuel second
      let a ← rangeEnd c stop first
      let b ← rangeEnd second after last
      if a.2.char ≤ b.2.char then return (.range (c.extent after) a b, after)
      else .error (after.since c.place .classRangeOrder)

def readOperator? (c : Cursor) : Option (SetOperator × Cursor) :=
  match c.rest with
  | '&' :: '&' :: _ => some (.inter, c.skip 2)
  | '-' :: '-' :: _ => some (.diff, c.skip 2)
  | '~' :: '~' :: _ => some (.symmDiff, c.skip 2)
  | _ => none

/-- The operands so far, of which `members` is the last. -/
def combine (left : Option (ClassTree × SetOperator)) (members : Members) : ClassTree :=
  let right := members.tree
  match left with
  | none => right
  | some (left, op) => .operation ⟨left.extent.start, right.extent.stop⟩ op left right

/-- Reads on to the end of a bracket. Each round reads a character at least; the fuel is at least
the number of characters left. -/
def readRest (spaced : Bool) (o : Opening) (left : Option (ClassTree × SetOperator))
    (members : Members) : (fuel : Nat) → Cursor → Except PatternError (ClassTree × Cursor)
  | 0, _ => .error o.unclosed
  | fuel + 1, c => do
    let c := c.settle spaced
    match readOperator? c with
    | some (op, after) =>
      readRest spaced o (some (combine left members, op)) (.none after.place) fuel after
    | none =>
      match c.rest with
      | [] => .error o.unclosed
      | ']' :: _ => return (combine left members, c.next)
      | '[' :: _ =>
        match readNamed? c with
        | some (named, after) => readRest spaced o left (members.add named) fuel after
        | none =>
          let inner ← Opening.read spaced (fuel + 1) c
          let (tree, after) ← readRest spaced inner none inner.members fuel inner.after
          let bracket := .bracket (c.extent after) inner.negated tree
          readRest spaced o left (members.add bracket) fuel after
      | _ =>
        let (item, after) ← readRange spaced (fuel + 1) o c
        readRest spaced o left (members.add item) fuel after

/-- Reads the bracket at the cursor. The fuel is at least the number of characters left. -/
def read (spaced : Bool) (fuel : Nat) (c : Cursor) : Except PatternError (Tree × Cursor) := do
  let o ← Opening.read spaced fuel c
  let (tree, after) ← readRest spaced o none o.members fuel o.after
  return (.bracket (c.extent after) o.negated tree, after)

end ByteMachine.Text.Bracket
