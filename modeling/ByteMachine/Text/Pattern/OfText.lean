import ByteMachine.Text.Pattern.Footprint
import ByteMachine.Text.Pattern.Meaning
import ByteMachine.Text.Pattern.Read

/-! Patterns from their spelling, as far as a search for them is possible: its machines must not
grow too large, and it must not ask for the words of all languages. -/

namespace ByteMachine.Text

inductive PatternFailure where
  | misspelled (e : PatternError)
  | tooLarge
  | wordsUnknown
  deriving DecidableEq, Repr

namespace Pattern

def machineLimit : Nat := 10 * 1024 * 1024

/-- Whether the pattern asks where words are that may have letters beyond ASCII. -/
def asksForWords : Pattern → Bool
  | .assertion (.word _ ascii) => !ascii
  | .capture _ p | .times p _ _ _ => p.asksForWords
  | .seq p q | .alt p q => p.asksForWords || q.asksForWords
  | _ => false

def ofText (text : List Char) : Except PatternFailure Pattern :=
  match Tree.ofText text >>= Tree.meaning .plain with
  | .error e => .error (.misspelled e)
  | .ok (p, _) =>
    if machineLimit < p.machineBytes .forward then .error .tooLarge
    else if p.asksForWords then .error .wordsUnknown
    else if machineLimit < p.machineBytes .backward then .error .tooLarge
    else .ok p

end Pattern

/-- The lines of the report on a pattern that the text fails to spell. -/
def PatternFailure.report (text : List Char) : PatternFailure → List String
  | .misspelled e => e.report text
  | .tooLarge =>
    ["Compiled regex exceeds size limit of " ++ Radix.decimal Pattern.machineLimit ++ " bytes."]
  | .wordsUnknown => ["error building NFA"]

end ByteMachine.Text
