import ByteMachine.Text.Pattern.Bracket
import ByteMachine.Text.Pattern.Parenthesis
import ByteMachine.Text.Pattern.Repetition

/-! Reading the spelling of a pattern. -/

namespace ByteMachine.Text.Tree

/-- Reads a part that is neither a group nor a repetition. The fuel is at least the number of
characters left. -/
def readPart (spaced : Bool) (fuel : Nat) (c : Cursor) : Except PatternError (Tree × Cursor) :=
  let here := c.extent c.next
  match c.rest with
  | [] => .ok (.empty here, c)
  | '[' :: _ => Bracket.read spaced fuel c
  | '\\' :: _ => do
    let (escape, after) ← Escape.read spaced fuel c
    match escape with
    | .symbol s => return (.symbol (c.extent after) s, after)
    | .mark m => return (.mark (c.extent after) m, after)
  | '.' :: _ => .ok (.dot here, c.next)
  | '^' :: _ => .ok (.mark here .caret, c.next)
  | '$' :: _ => .ok (.mark here .dollar, c.next)
  | x :: _ => .ok (.symbol here (.letter ⟨x, false⟩), c.next)

/-- What has been read of a group: the alternatives that are complete, and the parts of the one
that is not, the last one first. -/
structure Draft where
  start : Nat
  alternatives : List Tree
  current : Nat
  parts : List Tree
  deriving Repr

namespace Draft

def empty (c : Cursor) : Draft := ⟨c.place, [], c.place, []⟩

def add (d : Draft) (t : Tree) : Draft := { d with parts := t :: d.parts }

/-- The last alternative, which ends at the cursor. -/
def last (d : Draft) (c : Cursor) : Tree :=
  match d.parts with
  | [] => .empty ⟨d.current, c.place⟩
  | [t] => t
  | parts => .concat ⟨d.current, c.place⟩ parts.reverse

def close (d : Draft) (c : Cursor) : Tree :=
  match d.alternatives with
  | [] => d.last c
  | alternatives => .alternation ⟨d.start, c.place⟩ (d.last c :: alternatives).reverse

/-- Begins a further alternative behind the bar at the cursor. -/
def addBar (d : Draft) (c : Cursor) : Draft :=
  { d with alternatives := d.last c :: d.alternatives, current := c.next.place, parts := [] }

/-- The draft with its last part taken off, if it ends in a part that can be repeated. -/
def takePart? (d : Draft) : Option (Tree × Draft) :=
  match d.parts with
  | [] | .modes _ _ :: _ => none
  | t :: parts => some (t, { d with parts := parts })

end Draft

/-- Reads on to the end of a group that was opened at the place `opened`, or of the pattern. Each
round reads a character at least; the fuel is more than the number of characters left. -/
def readRest (opened : Option Nat) (spaced : Bool) (d : Draft) :
    (fuel : Nat) → Cursor → Except PatternError (Tree × Cursor)
  | 0, c => .ok (d.close c, c)
  | fuel + 1, c => do
    let c := c.settle spaced
    match c.rest with
    | [] =>
      match opened with
      | some place => .error ⟨.groupUnclosed, ⟨place, place + 1⟩, none⟩
      | none => return (d.close c, c)
    | ')' :: _ =>
      match opened with
      | some _ => return (d.close c, c.next)
      | none => .error (c.this .groupUnopened)
    | '|' :: _ => readRest opened spaced (d.addBar c) fuel c.next
    | '(' :: _ =>
      match ← Parenthesis.read spaced c with
      | (.modes change, after) =>
        let spaced := (change.lookup .spaced).getD spaced
        readRest opened spaced (d.add (.modes (c.extent after) change)) fuel after
      | (.group grouping, inner) =>
        let spacedInner :=
          match grouping with
          | .capture => spaced
          | .modes change => (change.lookup .spaced).getD spaced
        let (body, after) ← readRest (some c.place) spacedInner (.empty inner) fuel inner
        readRest opened spaced (d.add (.group (c.extent after) grouping body)) fuel after
    | _ =>
      match Repetition.read? spaced (fuel + 1) c with
      | none =>
        let (part, after) ← readPart spaced (fuel + 1) c
        readRest opened spaced (d.add part) fuel after
      | some counted =>
        match d.takePart? with
        | none => .error (c.here .nothingToRepeat)
        | some (part, d) =>
          let (r, after) ← counted
          let extent := ⟨part.extent.start, after.place⟩
          let repeated := .repetition extent part r.least r.most r.marked
          readRest opened spaced (d.add repeated) fuel after

def ofText (text : List Char) : Except PatternError Tree := do
  let start := Cursor.ofList text
  let (t, _) ← readRest none false (.empty start) (text.length + 1) start
  match t.tooDeep? nestLimit with
  | some extent => .error ⟨.nestedTooDeep, extent, none⟩
  | none => return t

end ByteMachine.Text.Tree
