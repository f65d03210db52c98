import ByteMachine.Event

/-! What a session needs of a logger. Which directives there are, what they let through and what the
lines of a log look like is the logger's own affair. -/

namespace ByteMachine.CommandLine

structure Logger where
  Filter : Type
  /-- The filter that directives describe. The lines warn of what cannot be read of them. -/
  read : String → Filter × List String
  /-- The filter that lets the target's messages through as well, down to the level. -/
  allow : Filter → (target : String) → Level → Filter
  /-- The line that a message becomes if it is let through, but for a time at its head. -/
  line? : Filter → (target : String) → Level → (text : String) → Option String

inductive LogSource where
  | machine
  | session
  deriving DecidableEq, Repr

def LogSource.target : LogSource → String
  | .machine => "ls8::cpu::cpu"
  | .session => "ls8"

namespace Logger

variable (logger : Logger)

/-- The filter of a session: the given directives, else warnings, and with `trace` everything
besides. Warnings about the directives come with it. -/
def start (spec : Option String) (trace : Bool) : logger.Filter × List String :=
  let (filter, warnings) := logger.read (spec.getD "warn")
  (if trace then logger.allow filter LogSource.session.target .trace else filter, warnings)

def lines (filter : logger.Filter) (events : List Event) : List String :=
  events.filterMap fun e => logger.line? filter LogSource.machine.target e.level e.text

/-- The line that ends a run without a fault, if it is shown. -/
def cyclesLine? (filter : logger.Filter) (cycles : Nat) : Option String :=
  logger.line? filter LogSource.session.target .info ("ran " ++ Radix.decimal cycles ++ " cycles")

end Logger

end ByteMachine.CommandLine
