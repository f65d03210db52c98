import ByteMachine.Text.Combining
import ByteMachine.Text.Radix
import ByteMachine.Text.Unprintable

/-! Texts shown between double quotes, such that no character of the text can be mistaken for
the quotes or for its surroundings. -/

namespace ByteMachine.Text

/-- The quote, the backslash and the four named controls have short escapes; what cannot be seen
alone is written as its code point; all else stands for itself. -/
def escape (c : Char) : List Char :=
  if c = '"' then ['\\', '"']
  else if c = '\\' then ['\\', '\\']
  else if c = '\x00' then ['\\', '0']
  else if c = '\t' then ['\\', 't']
  else if c = '\n' then ['\\', 'n']
  else if c = '\r' then ['\\', 'r']
  else if isUnprintable c || isCombining c then
    ['\\', 'u', '\x7b'] ++ (Radix.hex c.toNat).toList ++ ['\x7d']
  else [c]

def quoted (text : List Char) : String :=
  String.ofList ('"' :: text.flatMap escape ++ ['"'])

end ByteMachine.Text
