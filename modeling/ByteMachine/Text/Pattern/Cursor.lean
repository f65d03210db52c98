import ByteMachine.Text.Blank
import ByteMachine.Text.Pattern.Error

/-! A place in the spelling of a pattern. -/

namespace ByteMachine.Text

structure Cursor where
  place : Nat
  /-- The spelling from the place on. -/
  rest : List Char
  /-- The names of the groups that begin before the place, and where they stand. -/
  names : List (List Char × Extent)
  deriving DecidableEq, Repr

namespace Cursor

def ofList (text : List Char) : Cursor := ⟨0, text, []⟩

def next (c : Cursor) : Cursor :=
  match c.rest with
  | [] => c
  | _ :: rest => { c with place := c.place + 1, rest := rest }

def skip : (n : Nat) → Cursor → Cursor
  | 0, c => c
  | n + 1, c => skip n c.next

/-- The place behind the text, if it stands here. -/
def past? (c : Cursor) (text : String) : Option Cursor :=
  if text.toList.isPrefixOf c.rest then some (c.skip text.length) else none

/-- How many characters are blanks or in comments, which run from a hash sign to the end of its
line. -/
def idle : (comment : Bool) → List Char → Nat
  | _, [] => 0
  | true, c :: rest => idle (c ≠ '\n') rest + 1
  | false, c :: rest =>
    if c = '#' then idle true rest + 1 else if isBlank c then idle false rest + 1 else 0

/-- The next place that means something, if blanks and comments do not. -/
def settle (c : Cursor) (spaced : Bool) : Cursor :=
  if spaced then c.skip (idle false c.rest) else c

def extent (start stop : Cursor) : Extent := ⟨start.place, stop.place⟩

/-- A flaw from `start` up to the cursor. -/
def since (c : Cursor) (start : Nat) (flaw : PatternFlaw) : PatternError :=
  ⟨flaw, ⟨start, c.place⟩, none⟩

def here (c : Cursor) (flaw : PatternFlaw) : PatternError := c.since c.place flaw

def this (c : Cursor) (flaw : PatternFlaw) : PatternError := c.next.since c.place flaw

end Cursor

/-- What has been read and where it ends. -/
abbrev Reading (α : Type) := Except PatternError (α × Cursor)

end ByteMachine.Text
