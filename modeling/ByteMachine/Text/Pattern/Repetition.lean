import ByteMachine.Text.Pattern.Cursor

/-! How often a part of a pattern may stand in a row: a mark for the common cases, or counts
between braces. A question mark behind them tells which of several matches is preferred. -/

namespace ByteMachine.Text

/-- A bound from below and, maybe, one from above. -/
structure Repetition where
  least : Nat
  most : Option Nat
  marked : Bool
  deriving DecidableEq, Repr

namespace Repetition

def countRange : Nat := UInt32.size

/-- Reads digits behind the number `value`; without any there is no number. The fuel is at least the
number of characters left. -/
def readDigits (spaced : Bool) :
    (fuel : Nat) → (value : Option Nat) → Cursor → Option Nat × Cursor
  | 0, value, c => (value, c)
  | fuel + 1, value, c =>
    match c.rest with
    | x :: _ =>
      if x.isDigit then
        let value := value.getD 0 * 10 + (x.toNat - '0'.toNat)
        readDigits spaced fuel (some value) (c.next.settle spaced)
      else (value, c)
    | [] => (value, c)

def skipBlanks (c : Cursor) : Cursor := c.skip (c.rest.takeWhile isBlank).length

/-- A count, or what is wrong with it, and the place behind it. -/
def readCount (spaced : Bool) (fuel : Nat) (c : Cursor) : Except PatternError Nat × Cursor :=
  let start := skipBlanks c
  let (value, stop) := readDigits spaced fuel none start
  let count :=
    match value with
    | none => .error (stop.since start.place .countMissing)
    | some n => if n < countRange then .ok n else .error (stop.since start.place .countTooLarge)
  (count, (skipBlanks stop).settle spaced)

/-- The repetition with these bounds, whose last sign stands in front of the cursor. -/
def finish (least : Nat) (most : Option Nat) (c : Cursor) : Repetition × Cursor :=
  match c.past? "?" with
  | some after => (⟨least, most, true⟩, after)
  | none => (⟨least, most, false⟩, c)

def readCounts (spaced : Bool) (fuel : Nat) (brace : Cursor) :
    Except PatternError (Repetition × Cursor) := do
  let unclosed (c : Cursor) := c.since brace.place .countUnclosed
  let c := brace.next.settle spaced
  if c.rest.isEmpty then .error (unclosed c)
  else
    let (least, stop) := readCount spaced fuel c
    if stop.rest.isEmpty then .error (unclosed stop)
    else
      let (least, most, stop) ←
        match stop.past? "," with
        | none => do
          let least ← least
          pure (least, some least, stop)
        | some c => do
          let c := c.settle spaced
          match c.rest with
          | [] => .error (unclosed c)
          | '\x7d' :: _ =>
            let least ← least
            pure (least, none, c)
          | _ =>
            let least ← least
            let (most, stop) := readCount spaced fuel c
            let most ← most
            pure (least, some most, stop)
      match stop.past? "\x7d" with
      | none => .error (unclosed stop)
      | some c =>
        let (r, after) := finish least most (c.settle spaced)
        if most.all (least ≤ ·) then return (r, after)
        else .error (after.since brace.place .countOrder)

/-- Reads the repetition at the cursor, if there is one. The fuel is at least the number of
characters left. -/
def read? (spaced : Bool) (fuel : Nat) (c : Cursor) :
    Option (Except PatternError (Repetition × Cursor)) :=
  match c.rest with
  | '?' :: _ => some (.ok (finish 0 (some 1) c.next))
  | '*' :: _ => some (.ok (finish 0 none c.next))
  | '+' :: _ => some (.ok (finish 1 none c.next))
  | '\x7b' :: _ => some (readCounts spaced fuel c)
  | _ => none

end Repetition

end ByteMachine.Text
