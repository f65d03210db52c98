import ByteMachine.CommandLine.Logger
import ByteMachine.Text.Blank
import ByteMachine.Text.Pattern.OfText

/-! The logger that the program is put together with. A filter is a list of directives, each of which
sets the least important level shown for the targets that start with its own, and maybe a pattern
that must occur in the text of a message. -/

namespace ByteMachine.CommandLine

structure Directive where
  target : String
  /-- The least important level that is shown; without one, nothing is. -/
  level : Option Level
  deriving DecidableEq, Repr

structure LogFilter where
  directives : List Directive
  pattern : Option Text.Pattern
  deriving DecidableEq, Repr

namespace LogFilter

/-- The names of the levels, and of none, in capitals. -/
def readLevel (text : String) : Option (Option Level) :=
  match text.map Char.toUpper with
  | "OFF" => some none
  | "ERROR" => some (some .error)
  | "WARN" => some (some .warn)
  | "INFO" => some (some .info)
  | "DEBUG" => some (some .debug)
  | "TRACE" => some (some .trace)
  | _ => none

def trim (text : String) : String := String.ofList (Text.trim text.toList)

/-- Reads a directive: a level for all targets, a target shown in full, or a target and its level
with an equals sign between them. What cannot be read is handed back. -/
def readDirective (text : String) : Except String Directive :=
  match text.splitOn "=" with
  | [target] =>
    match readLevel target with
    | some level => .ok ⟨"", level⟩
    | none => .ok ⟨target, some .trace⟩
  | [target, level] =>
    if trim level = "" then .ok ⟨target, some .trace⟩
    else
      match readLevel (trim level) with
      | some level => .ok ⟨target, level⟩
      | none => .error (trim level)
  | _ => .error text

/-- Reads directives with commas between them, and gives a warning for each that cannot be
read. -/
def readDirectives (text : String) : List Directive × List String :=
  let entries := ((text.splitOn ",").map trim).filter (· ≠ "")
  let readings := entries.map readDirective
  (readings.filterMap fun
      | .ok directive => some directive
      | .error _ => none,
    readings.filterMap fun
      | .ok _ => none
      | .error text => some ("warning: invalid logging spec '" ++ text ++ "', ignoring it"))

/-- Reads a pattern, or gives the lines of a warning. -/
def readPattern (text : String) : Option Text.Pattern × List String :=
  match Text.Pattern.ofText text.toList with
  | .ok p => (some p, [])
  | .error e =>
    match e.report text.toList with
    | [] => (none, [])
    | line :: more => (none, ("warning: invalid regex filter - " ++ line) :: more)

/-- Reads the directives and, behind a slash, the pattern of a filter. The warnings come with it.
Text with a second slash is no filter. -/
def parse (spec : String) : LogFilter × List String :=
  match spec.splitOn "/" with
  | [text] =>
    let (directives, warnings) := readDirectives text
    (⟨directives, none⟩, warnings)
  | [text, search] =>
    let (directives, warnings) := readDirectives text
    let (pattern, flaws) := readPattern search
    (⟨directives, pattern⟩, warnings ++ flaws)
  | _ =>
    (⟨[], none⟩,
      ["warning: invalid logging spec '" ++ spec ++ "', ignoring it (too many '/'s)"])

/-- The filter with one more directive, which goes before earlier ones for the same target. -/
def add (f : LogFilter) (d : Directive) : LogFilter :=
  { f with directives := f.directives ++ [d] }

/-- The directive that decides on a target: the last of the longest that fit. -/
def decisive? (f : LogFilter) (target : String) : Option Directive :=
  f.directives.foldl (fun best d =>
    if d.target.toList.isPrefixOf target.toList &&
        best.all fun b => b.target.length ≤ d.target.length then some d else best) none

/-- Whether messages of the level are shown for the target, if the pattern occurs in them. Without
any directive, errors are. -/
def passes (f : LogFilter) (target : String) (level : Level) : Bool :=
  if f.directives.isEmpty then level.rank ≤ Level.error.rank
  else
    match f.decisive? target with
    | some ⟨_, some least⟩ => level.rank ≤ least.rank
    | _ => false

def shows (f : LogFilter) (target : String) (level : Level) (text : String) : Bool :=
  f.passes target level && f.pattern.all fun p => p.occursIn text

def logger : Logger where
  Filter := LogFilter
  read := parse
  allow f target level := f.add ⟨target, some level⟩
  line? f target level text :=
    if f.shows target level text then
      some ("[" ++ String.ofList (level.name.toList.rightpad 5 ' ') ++ " " ++ target ++ "] " ++ text)
    else none

end LogFilter

end ByteMachine.CommandLine
