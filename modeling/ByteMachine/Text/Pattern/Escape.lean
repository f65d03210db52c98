import ByteMachine.Text.Pattern.Cursor
import ByteMachine.Text.Pattern.Tree

/-! Escapes in patterns. A backslash takes the meaning from a mark and gives one to some letters. -/

namespace ByteMachine.Text

inductive Escape where
  | symbol (s : Symbol)
  | mark (m : Mark)
  deriving DecidableEq, Repr

namespace Escape

def hexDigit? (c : Char) : Option Nat :=
  if '0' ≤ c ∧ c ≤ '9' then some (c.toNat - '0'.toNat)
  else if 'a' ≤ c ∧ c ≤ 'f' then some (c.toNat - 'a'.toNat + 10)
  else if 'A' ≤ c ∧ c ≤ 'F' then some (c.toNat - 'A'.toNat + 10)
  else none

/-- Reads `n` digits behind the number `value`. -/
def readHex (spaced : Bool) : (n value : Nat) → Cursor → Reading Nat
  | 0, value, c => .ok (value, c)
  | n + 1, value, c =>
    match c.rest with
    | [] => .error (c.here .escapeUnfinished)
    | x :: _ =>
      match hexDigit? x with
      | some d => readHex spaced n (value * 16 + d) (c.next.settle spaced)
      | none => .error (c.this .hexDigit)

/-- Reads digits up to a closing brace; without any there is no number. The fuel is more than the
number of characters left. -/
def readHexToBrace (spaced : Bool) (brace : Nat) :
    (fuel : Nat) → (value : Option Nat) → Cursor → Reading (Option Nat)
  | 0, _, c => .error (c.since brace .escapeUnfinished)
  | fuel + 1, value, c =>
    match c.rest with
    | [] => .error (c.since brace .escapeUnfinished)
    | '\x7d' :: _ => .ok (value, c)
    | x :: _ =>
      match hexDigit? x with
      | some d =>
        let value := value.getD 0 * 16 + d
        readHexToBrace spaced brace fuel (some value) (c.next.settle spaced)
      | none => .error (c.this .hexDigit)

/-- The character with a code point that has been read from `start` up to `stop`. -/
def ofCodePoint (asByte : Bool) (start : Nat) (stop : Cursor) (value : Nat) :
    Except PatternError Escape :=
  if value.isValidChar then .ok (.symbol (.letter ⟨Char.ofNat value, asByte⟩))
  else .error (stop.since start .hexValue)

/-- Reads a code point, of `n` digits or between braces, behind its letter. -/
def readCodePoint (spaced : Bool) (fuel n : Nat) (letter : Cursor) :
    Except PatternError (Escape × Cursor) := do
  let c := letter.next.settle spaced
  match c.rest with
  | [] => .error (c.here .escapeUnfinished)
  | '\x7b' :: _ =>
    let (value, stop) ← readHexToBrace spaced c.place fuel none (c.next.settle spaced)
    let after := stop.next.settle spaced
    match value with
    | none => .error (after.since c.place .hexEmpty)
    | some value => return (← ofCodePoint false (c.place + 1) stop value, after)
  | _ =>
    let (value, after) ← readHex spaced n 0 c
    return (← ofCodePoint (n = 2) c.place after value, after)

/-- Reads the name of a property up to a closing brace, and past that. The fuel is more than the
number of characters left. -/
def readPropertyName (spaced : Bool) : (fuel : Nat) → (name : List Char) → Cursor → Reading Escape
  | 0, _, c => .error (c.here .escapeUnfinished)
  | fuel + 1, name, c =>
    match c.rest with
    | [] => .error (c.here .escapeUnfinished)
    | '\x7d' :: _ => .ok (.symbol (.property name.reverse), c.next)
    | x :: _ => readPropertyName spaced fuel (x :: name) (c.next.settle spaced)

/-- Reads a property, of one letter or between braces, behind its letter. -/
def readProperty (spaced : Bool) (fuel : Nat) (letter : Cursor) : Reading Escape :=
  let c := letter.next.settle spaced
  match c.rest with
  | [] => .error (c.here .escapeUnfinished)
  | '\x7b' :: _ => readPropertyName spaced fuel [] (c.next.settle spaced)
  | '\\' :: _ => .error (c.this .propertyLetter)
  | x :: _ => .ok (.symbol (.property [x]), c.next.settle spaced)

def isNameChar (c : Char) : Bool := c.isAlpha || c == '-'

/-- Reads the name of a boundary; the fuel is more than the number of characters left. -/
def readBoundaryName (spaced : Bool) :
    (fuel : Nat) → (name : List Char) → Cursor → List Char × Cursor
  | 0, name, c => (name.reverse, c)
  | fuel + 1, name, c =>
    match c.rest with
    | x :: _ => if isNameChar x then readBoundaryName spaced fuel (x :: name) (c.next.settle spaced)
      else (name.reverse, c)
    | [] => (name.reverse, c)

/-- Reads what stands between braces behind the escape for a boundary that begins at `start`. If
it does not begin like a name, the braces hold a count. -/
def readBoundary (spaced : Bool) (fuel start : Nat) (brace : Cursor) : Reading Escape :=
  let c := brace.next.settle spaced
  match c.rest with
  | [] => .error (c.since start .boundaryOrCountUnfinished)
  | x :: _ =>
    if isNameChar x then
      let (name, stop) := readBoundaryName spaced fuel [] c
      match stop.rest with
      | '\x7d' :: _ =>
        match String.ofList name with
        | "start" => .ok (.mark (.word .wordStart), stop.next)
        | "end" => .ok (.mark (.word .wordEnd), stop.next)
        | "start-half" => .ok (.mark (.word .noWordBefore), stop.next)
        | "end-half" => .ok (.mark (.word .noWordAfter), stop.next)
        | _ => .error (stop.since c.place .boundaryUnknown)
      | _ => .error (stop.since brace.place .boundaryUnclosed)
    else .ok (.mark (.word .boundary), brace)

def letter (c : Char) : Escape := .symbol (.letter ⟨c, false⟩)

/-- The meaning of a backslash in front of the character, where it does not depend on what
follows. -/
def ofChar? (c : Char) : Option Escape :=
  match c with
  | 'a' => some (letter '\x07')
  | 'f' => some (letter '\x0c')
  | 't' => some (letter '\t')
  | 'n' => some (letter '\n')
  | 'r' => some (letter '\r')
  | 'v' => some (letter '\x0b')
  | 'd' => some (.symbol (.shorthand .digit false))
  | 's' => some (.symbol (.shorthand .space false))
  | 'w' => some (.symbol (.shorthand .word false))
  | 'D' => some (.symbol (.shorthand .digit true))
  | 'S' => some (.symbol (.shorthand .space true))
  | 'W' => some (.symbol (.shorthand .word true))
  | 'A' => some (.mark .textStart)
  | 'z' => some (.mark .textEnd)
  | 'B' => some (.mark (.word .noBoundary))
  | '<' => some (.mark (.word .wordStart))
  | '>' => some (.mark (.word .wordEnd))
  | _ => if c.toNat < 0x80 ∧ c.isAlphanum = false then some (letter c) else none

/-- Reads the escape whose backslash is at the cursor. The fuel is at least the number of characters
left. -/
def read (spaced : Bool) (fuel : Nat) (c : Cursor) : Reading Escape :=
  let letter := c.next
  let after := letter.next
  match letter.rest with
  | [] => .error (letter.since c.place .escapeUnfinished)
  | 'x' :: _ => readCodePoint spaced fuel 2 letter
  | 'u' :: _ => readCodePoint spaced fuel 4 letter
  | 'U' :: _ => readCodePoint spaced fuel 8 letter
  | 'p' :: _ | 'P' :: _ => readProperty spaced fuel letter
  | ['b'] => .ok (.mark (.word .boundary), after)
  | 'b' :: x :: _ =>
    if x = '\x7b' then readBoundary spaced fuel c.place after
    else .ok (.mark (.word .boundary), after)
  | x :: _ =>
    if x.isDigit then .error (after.since c.place .backreference)
    else
      match ofChar? x with
      | some escape => .ok (escape, after)
      | none => .error (after.since c.place .escapeUnknown)

end Escape

end ByteMachine.Text
