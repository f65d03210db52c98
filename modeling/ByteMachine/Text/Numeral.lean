/-! Reading numerals: bytes written in binary, and decimal words of 64 bits as they stand on a
command line. -/

namespace ByteMachine.Text

/-- The number that a text of binary digits stands for, if it holds no other character. A text
without characters stands for zero. -/
def readBits (text : List Char) : Option Nat :=
  text.foldlM (fun v c =>
    if c = '0' then some (v * 2) else if c = '1' then some (v * 2 + 1) else none) 0

def readDigit (c : Char) : Option Nat :=
  if '0' ≤ c ∧ c ≤ '9' then some (c.toNat - '0'.toNat) else none

/-- Why a text is no decimal word. -/
inductive NumeralError where
  | empty
  | invalidDigit
  | tooLarge
  deriving DecidableEq, Repr

def NumeralError.message : NumeralError → String
  | .empty => "cannot parse integer from empty string"
  | .invalidDigit => "invalid digit found in string"
  | .tooLarge => "number too large to fit in target type"

def wordRange : Nat := UInt64.size

/-- Reads digits from left to right, with `v` read so far. The first character that is no digit,
or whose digit takes the number out of range, decides the error. -/
def readDigits (v : Nat) : List Char → Except NumeralError Nat
  | [] => .ok v
  | c :: rest =>
    match readDigit c with
    | none => .error .invalidDigit
    | some d => if v * 10 + d < wordRange then readDigits (v * 10 + d) rest else .error .tooLarge

/-- A decimal word, with one plus sign allowed in front of its digits. -/
def readWord : List Char → Except NumeralError Nat
  | [] => .error .empty
  | ['+'] => .error .invalidDigit
  | '+' :: digits => readDigits 0 digits
  | digits => readDigits 0 digits

end ByteMachine.Text
