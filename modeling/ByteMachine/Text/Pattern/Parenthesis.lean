import ByteMachine.Text.Alphabetic
import ByteMachine.Text.Numeric
import ByteMachine.Text.Pattern.Cursor
import ByteMachine.Text.Pattern.Tree

/-! What an opening parenthesis begins: a group, which may have a name or modes of its own, or a
change of modes up to the end of the group around it. -/

namespace ByteMachine.Text

inductive Parenthesis where
  | group (g : Grouping)
  | modes (c : ModeChange)
  deriving DecidableEq, Repr

namespace Parenthesis

def isNameStart (c : Char) : Bool := c == '_' || isAlphabetic c

/-- Names go on with letters, numbers and a few marks. -/
def isNamePart (c : Char) : Bool :=
  isNameStart c || isNumeric c || c == '.' || c == '[' || c == ']'

/-- Reads the name that begins at the cursor and is closed by an angle bracket. No two groups have
one name. -/
def readName (c : Cursor) : Except PatternError Cursor :=
  let name :=
    match c.rest with
    | x :: rest => if isNameStart x then x :: rest.takeWhile isNamePart else []
    | [] => []
  let stop := c.skip name.length
  match stop.rest with
  | [] => .error (stop.here .nameUnclosed)
  | '>' :: _ =>
    if name.isEmpty then .error (c.here .nameEmpty)
    else
      match c.names.lookup name with
      | some earlier => .error ⟨.nameDuplicate, c.extent stop, some earlier⟩
      | none => .ok { stop.next with names := (name, c.extent stop) :: c.names }
  | _ => .error (stop.this .nameCharacter)

/-- The change of modes that flags make, given with their places, the last one first. Flags behind a
dash are turned off. -/
def modeChange (seen : List (Char × Nat)) : ModeChange :=
  let flags := seen.reverse.map Prod.fst
  let on := flags.takeWhile (· ≠ '-')
  let off := flags.drop on.length
  (on.filterMap Mode.ofFlag?).map (·, true) ++ (off.filterMap Mode.ofFlag?).map (·, false)

/-- Reads flags up to their end, of which `seen` are those so far and where they stand, the last
one first. -/
def readFlags (c : Cursor) (seen : List (Char × Nat)) :
    (place : Nat) → List Char → Except PatternError (Parenthesis × Cursor)
  | place, [] => .error ⟨.flagUnfinished, ⟨place, place⟩, none⟩
  | place, x :: rest =>
    let extent : Extent := ⟨place, place + 1⟩
    let after : Cursor := { c with place := place + 1, rest := rest }
    if x = ':' ∨ x = ')' then
      match seen, x with
      | ('-', dash) :: _, _ => .error ⟨.flagNegatesNothing, ⟨dash, dash + 1⟩, none⟩
      | _, ':' => .ok (.group (.modes (modeChange seen)), after)
      | [], _ => .error ⟨.nothingToRepeat, ⟨place - 1, place - 1⟩, none⟩
      | _, _ => .ok (.modes (modeChange seen), after)
    else if x ≠ '-' ∧ Mode.ofFlag? x = none then .error ⟨.flagUnknown, extent, none⟩
    else
      match seen.lookup x with
      | some earlier =>
        .error ⟨if x = '-' then .flagNegatedTwice else .flagDuplicate, extent,
          some ⟨earlier, earlier + 1⟩⟩
      | none => readFlags c ((x, place) :: seen) (place + 1) rest

def read (spaced : Bool) (c : Cursor) : Except PatternError (Parenthesis × Cursor) :=
  let first := c.next.settle spaced
  let past (text : String) := first.past? text
  match (past "?=" <|> past "?!" <|> past "?<=" <|> past "?<!"), (past "?P<" <|> past "?<"),
      past "?" with
  | some after, _, _ => .error (after.since c.place .lookAround)
  | none, some name, _ => do return (.group .capture, ← readName name)
  | none, none, some flags =>
    if flags.rest.isEmpty then .error (c.this .groupUnclosed)
    else readFlags flags [] flags.place flags.rest
  | none, none, none => .ok (.group .capture, first)

end Parenthesis

end ByteMachine.Text
