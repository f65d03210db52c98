/-! The modes of reading a pattern. Flags turn them on and off. -/

namespace ByteMachine.Text

inductive Mode where
  | anyCase
  /-- The caret and the dollar sign stand for the ends of lines. -/
  | lineEnds
  /-- The dot stands for line ends, too. -/
  | anyChar
  /-- Repetitions are short, and greedy if they are marked. -/
  | short
  /-- Patterns are about characters, and else about bytes. -/
  | unicode
  /-- Carriage returns end lines, too. -/
  | carriageReturns
  /-- Blanks and comments between the parts of a pattern mean nothing. -/
  | spaced
  deriving DecidableEq, Repr

def Mode.ofFlag? (flag : Char) : Option Mode :=
  match flag with
  | 'i' => some .anyCase
  | 'm' => some .lineEnds
  | 's' => some .anyChar
  | 'U' => some .short
  | 'u' => some .unicode
  | 'R' => some .carriageReturns
  | 'x' => some .spaced
  | _ => none

abbrev Modes := List Mode

abbrev ModeChange := List (Mode × Bool)

namespace Modes

def plain : Modes := [.unicode]

def set (ms : Modes) (mode : Mode) (on : Bool) : Modes :=
  let others := ms.filter (· ≠ mode)
  if on then mode :: others else others

def change (ms : Modes) (c : ModeChange) : Modes := c.foldl (fun ms (mode, on) => ms.set mode on) ms

theorem contains_set (ms : Modes) (mode other : Mode) (on : Bool) :
    (ms.set mode on).contains other = if other = mode then on else ms.contains other := by
  by_cases h : other = mode <;> cases on <;> simp [set, h]

end Modes

end ByteMachine.Text
