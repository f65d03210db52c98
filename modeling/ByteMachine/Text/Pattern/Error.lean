import ByteMachine.Text.Line
import ByteMachine.Text.Radix

/-! What can be wrong with the spelling of a pattern, and the report of it, which shows the place
in the pattern. -/

namespace ByteMachine.Text

structure Extent where
  start : Nat
  stop : Nat
  deriving DecidableEq, Repr

inductive PatternFlaw where
  | anyCaseUnknown
  | backreference
  | boundaryOrCountUnfinished
  | boundaryUnclosed
  | boundaryUnknown
  | byteMatch
  | classEscape
  | classRangeEnd
  | classRangeOrder
  | classUnclosed
  | countMissing
  | countOrder
  | countTooLarge
  | countUnclosed
  | escapeUnfinished
  | escapeUnknown
  | flagDuplicate
  | flagNegatesNothing
  | flagNegatedTwice
  | flagUnfinished
  | flagUnknown
  | groupUnclosed
  | groupUnopened
  | hexDigit
  | hexEmpty
  | hexValue
  | lookAround
  | nameCharacter
  | nameDuplicate
  | nameEmpty
  | nameUnclosed
  | nestedTooDeep
  | nothingToRepeat
  | propertyLetter
  | propertyUnknown
  | propertyValueUnknown
  | shorthandUnknown
  | wideCharacter
  deriving DecidableEq, Repr

/-- How many groups, brackets, repetitions and lists may enclose one another. -/
def nestLimit : Nat := 250

def PatternFlaw.message : PatternFlaw → String
  | .anyCaseUnknown =>
    "Unicode-aware case insensitivity matching is not available (make sure the unicode-case " ++
      "feature is enabled)"
  | .backreference => "backreferences are not supported"
  | .boundaryOrCountUnfinished =>
    "found either the beginning of a special word boundary or a bounded repetition on a \\b " ++
      "with an opening brace, but no closing brace"
  | .boundaryUnclosed =>
    "special word boundary assertion is either unclosed or contains an invalid character"
  | .boundaryUnknown =>
    "unrecognized special word boundary assertion, valid choices are: start, end, start-half or " ++
      "end-half"
  | .byteMatch => "pattern can match invalid UTF-8"
  | .classEscape => "invalid escape sequence found in character class"
  | .classRangeEnd => "invalid range boundary, must be a literal"
  | .classRangeOrder => "invalid character class range, the start must be <= the end"
  | .classUnclosed => "unclosed character class"
  | .countMissing => "repetition quantifier expects a valid decimal"
  | .countOrder => "invalid repetition count range, the start must be <= the end"
  | .countTooLarge => "decimal literal invalid"
  | .countUnclosed => "unclosed counted repetition"
  | .escapeUnfinished => "incomplete escape sequence, reached end of pattern prematurely"
  | .escapeUnknown => "unrecognized escape sequence"
  | .flagDuplicate => "duplicate flag"
  | .flagNegatesNothing => "dangling flag negation operator"
  | .flagNegatedTwice => "flag negation operator repeated"
  | .flagUnfinished => "expected flag but got end of regex"
  | .flagUnknown => "unrecognized flag"
  | .groupUnclosed => "unclosed group"
  | .groupUnopened => "unopened group"
  | .hexDigit => "invalid hexadecimal digit"
  | .hexEmpty => "hexadecimal literal empty"
  | .hexValue => "hexadecimal literal is not a Unicode scalar value"
  | .lookAround => "look-around, including look-ahead and look-behind, is not supported"
  | .nameCharacter => "invalid capture group character"
  | .nameDuplicate => "duplicate capture group name"
  | .nameEmpty => "empty capture group name"
  | .nameUnclosed => "unclosed capture group name"
  | .nestedTooDeep =>
    "exceed the maximum number of nested parentheses/brackets (" ++ Radix.decimal nestLimit ++ ")"
  | .nothingToRepeat => "repetition operator missing expression"
  | .propertyLetter => "invalid Unicode character class"
  | .propertyUnknown => "Unicode property not found"
  | .propertyValueUnknown => "Unicode property value not found"
  | .shorthandUnknown =>
    "Unicode-aware Perl class not found (make sure the unicode-perl feature is enabled)"
  | .wideCharacter => "Unicode not allowed here"

structure PatternError where
  flaw : PatternFlaw
  extent : Extent
  earlier : Option Extent
  deriving DecidableEq, Repr

namespace PatternError

/-- The line of a place in the text and the column in it, both counted from zero. -/
def lineAndColumn (text : List Char) (place : Nat) : Nat × Nat :=
  let before := text.take place
  (before.count '\n', (before.reverse.takeWhile (· ≠ '\n')).length)

def carets (column : Nat) : List (Nat × Nat) → List Char
  | [] => []
  | (start, stop) :: rest =>
    let width := max 1 (stop - start)
    List.replicate (start - column) ' ' ++ List.replicate width '^' ++
      carets (max start column + width) rest

def parts (e : PatternError) : List Extent := e.earlier.toList ++ [e.extent]

/-- The columns of the parts that lie in the line with the number `line` from zero. -/
def columns (e : PatternError) (text : List Char) (line : Nat) : List (Nat × Nat) :=
  e.parts.filterMap fun ⟨start, stop⟩ =>
    let (startLine, startColumn) := lineAndColumn text start
    let (stopLine, stopColumn) := lineAndColumn text stop
    if startLine = line ∧ stopLine = line then some (startColumn, stopColumn) else none

/-- The line of a text and the carets below it, if it needs any; `margin` stands in front. -/
def marked (margin line : List Char) (columns : List (Nat × Nat)) : List String :=
  let shown := String.ofList (margin ++ line)
  match columns with
  | [] => [shown]
  | _ => [shown, String.ofList (List.replicate margin.length ' ' ++ carets 0 columns)]

def overruns (e : PatternError) (text : List Char) : List String :=
  e.parts.filterMap fun ⟨start, stop⟩ =>
    let (startLine, startColumn) := lineAndColumn text start
    let (stopLine, stopColumn) := lineAndColumn text stop
    if startLine = stopLine then none
    else some ("on line " ++ Radix.decimal (startLine + 1) ++ " (column " ++
      Radix.decimal (startColumn + 1) ++ ") through line " ++ Radix.decimal (stopLine + 1) ++
      " (column " ++ Radix.decimal stopColumn ++ ")")

/-- The lines of the report. Lines of a pattern are numbered if there are several. -/
def report (text : List Char) (e : PatternError) : List String :=
  let last := ["error: " ++ e.flaw.message]
  if text.contains '\n' then
    let divider := String.ofList (List.replicate 79 '~')
    let width := (Radix.decimal (text.count '\n' + 1)).length
    let shown := (lines text).zipIdx.flatMap fun (line, i) =>
      let number := (Radix.decimal (i + 1)).toList.leftpad width ' '
      marked (number ++ [':', ' ']) line (e.columns text i)
    "regex parse error:" :: divider :: shown ++ divider :: e.overruns text ++ last
  else
    "regex parse error:" :: marked (List.replicate 4 ' ') text (e.columns text 0) ++ last

end PatternError

end ByteMachine.Text
