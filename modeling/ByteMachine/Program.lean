import ByteMachine.Memory
import ByteMachine.Text.Blank
import ByteMachine.Text.Line
import ByteMachine.Text.Numeral
import ByteMachine.Text.Quoted

/-! Assembled programs as text: one byte in binary on each line that starts with a binary digit.
What follows `#` on a line is a comment, and all other lines are skipped. -/

namespace ByteMachine

/-- Why a file cannot be read as text. -/
inductive ReadError where
  | missing
  | directory
  | notText
  | system (description : String)
  deriving DecidableEq, Repr

def ReadError.message : ReadError → String
  | .missing => "No such file or directory (os error 2)"
  | .directory => "Is a directory (os error 21)"
  | .notText => "stream did not contain valid UTF-8"
  | .system description => description

/-- Why no program can be had from a file. -/
inductive LoadError where
  | unreadable (cause : ReadError)
  /-- The line with this number holds a text that is no byte. -/
  | invalidByte (line : Nat) (text : List Char)
  | tooLarge (size : Nat)
  deriving DecidableEq, Repr

namespace LoadError

def message : LoadError → String
  | .unreadable cause => "cannot read program: " ++ cause.message
  | .invalidByte line text =>
    "line " ++ Radix.decimal line ++ ": " ++ Text.quoted text ++ " is not a binary byte"
  | .tooLarge size =>
    "program is " ++ Radix.decimal size ++ " bytes, memory holds " ++ Radix.decimal Memory.size

/-- The error's message and, if a file could not be read, that of the cause. -/
def causes : LoadError → List String
  | .unreadable cause => [(LoadError.unreadable cause).message, cause.message]
  | error => [error.message]

end LoadError

namespace Program

/-- Whether a line holds a byte: its first character is a binary digit. -/
def isCode : List Char → Bool
  | [] => false
  | c :: _ => c = '0' || c = '1'

/-- The part of a line before its comment, without the blanks around it. -/
def codeText (line : List Char) : List Char :=
  Text.trim (line.takeWhile (· ≠ '#'))

/-- The byte that a text of binary digits stands for. -/
def readByte? (text : List Char) : Option Byte :=
  match Text.readBits text with
  | some v => if v < 256 then some (BitVec.ofNat 8 v) else none
  | none => none

/-- The bytes of the lines, of which the first has the number `n`. -/
def ofLines (n : Nat) : List (List Char) → Except LoadError (List Byte)
  | [] => .ok []
  | line :: rest =>
    if isCode line then
      match readByte? (codeText line) with
      | some b => (b :: ·) <$> ofLines (n + 1) rest
      | none => .error (.invalidByte n (codeText line))
    else ofLines (n + 1) rest

/-- The program that a source text holds. A text that is no byte is reported before a program
that is too large. -/
def parse (source : String) : Except LoadError (List Byte) := do
  let program ← ofLines 1 (Text.lines source.toList)
  if Memory.size < program.length then .error (.tooLarge program.length) else .ok program

/-- The program in a file, given its content or the reason why there is none. -/
def ofFile (content : Except ReadError ByteArray) : Except LoadError (List Byte) :=
  match content with
  | .error cause => .error (.unreadable cause)
  | .ok bytes =>
    match String.fromUTF8? bytes with
    | some source => parse source
    | none => .error (.unreadable .notText)

end Program

end ByteMachine
