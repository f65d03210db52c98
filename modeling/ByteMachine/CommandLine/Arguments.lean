/-! The arguments of the command line: one program file, the flag `--trace` and the options
`--timer-ms` and `--max-steps`, in any order and each at most once. The value of `--timer-ms` has a
default and may be left out; that of `--max-steps` may not. -/

namespace ByteMachine.CommandLine

structure Arguments where
  program : String
  trace : Bool
  timerMillis : String
  maxSteps : Option String
  deriving DecidableEq, Repr

inductive ValueOption where
  | timerMillis
  | maxSteps
  deriving DecidableEq, Repr

inductive Argument where
  | positional (text : String)
  | endOfOptions
  | trace
  /-- An option, and its value if that is part of the same argument. -/
  | option (option : ValueOption) (value : Option String)
  | unknown
  deriving DecidableEq, Repr

namespace Argument

/-- Whether an argument can be the value of the option before it. -/
def isValue (arg : String) : Bool :=
  match arg.toList with
  | '-' :: _ :: _ => false
  | _ => true

def nameAndValue (text : List Char) : String × List Char :=
  (String.ofList (text.takeWhile (· ≠ '=')), text.dropWhile (· ≠ '='))

/-- The value given after equals signs, if there is one. -/
def valueOf : List Char → Option String
  | [] => none
  | text => some (String.ofList (text.dropWhile (· = '=')))

/-- Reads an argument that is not the value of an option. More than two dashes in front of an
option and a value given to the flag make no difference. -/
def read (arg : String) : Argument :=
  match arg.toList with
  | ['-', '-'] => .endOfOptions
  | '-' :: '-' :: rest =>
    match nameAndValue (rest.dropWhile (· = '-')) with
    | ("trace", _) => .trace
    | ("timer-ms", value) => .option .timerMillis (valueOf value)
    | ("max-steps", value) => .option .maxSteps (valueOf value)
    | _ => .unknown
  | '-' :: _ :: _ => .unknown
  | _ => .positional arg

end Argument

/-- How often and with what an option has been given so far. -/
inductive Setting where
  | absent
  | bare
  | value (text : String)
  deriving DecidableEq, Repr

namespace Setting

/-- The value of an option that must have one where it is given. -/
def required : Setting → Option (Option String)
  | .absent => some none
  | .bare => none
  | .value text => some (some text)

/-- The value of an option that has a default. -/
def withDefault (text : String) : Setting → String
  | .value text => text
  | _ => text

end Setting

structure Draft where
  program : Option String
  trace : Bool
  timerMillis : Setting
  maxSteps : Setting
  deriving DecidableEq, Repr

namespace Draft

def empty : Draft := ⟨none, false, .absent, .absent⟩

def addProgram (d : Draft) (text : String) : Option Draft :=
  match d.program with
  | none => some { d with program := some text }
  | some _ => none

def addTrace (d : Draft) : Option Draft := if d.trace then none else some { d with trace := true }

def addOption (d : Draft) (setting : Setting) : ValueOption → Option Draft
  | .timerMillis =>
    match d.timerMillis with
    | .absent => some { d with timerMillis := setting }
    | _ => none
  | .maxSteps =>
    match d.maxSteps with
    | .absent => some { d with maxSteps := setting }
    | _ => none

/-- Adds one argument after another. An option takes the next argument as its value if it has none
of its own and that argument can be one. -/
def addAll (d : Draft) : List String → Option Draft
  | [] => some d
  | arg :: rest =>
    match Argument.read arg with
    | .positional text => do (← d.addProgram text).addAll rest
    | .endOfOptions => rest.foldlM addProgram d
    | .trace => do (← d.addTrace).addAll rest
    | .option option (some value) => do (← d.addOption (.value value) option).addAll rest
    | .option option none =>
      match rest with
      | [] => d.addOption .bare option
      | value :: more =>
        if Argument.isValue value then do (← d.addOption (.value value) option).addAll more
        else do (← d.addOption .bare option).addAll (value :: more)
    | .unknown => none

end Draft

def Arguments.defaultTimerMillis : String := "1000"

/-- Reads the arguments; nothing if they are not as described above. -/
def Arguments.parse (args : List String) : Option Arguments := do
  let d ← Draft.empty.addAll args
  return {
    program := ← d.program
    trace := d.trace
    timerMillis := d.timerMillis.withDefault defaultTimerMillis
    maxSteps := ← d.maxSteps.required }

end ByteMachine.CommandLine
