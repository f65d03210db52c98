import ByteMachine.Program
import ByteMachine.Trace

/-! What can go wrong on the command line. -/

namespace ByteMachine.CommandLine

inductive Failure where
  | timerMillis (cause : Text.NumeralError)
  | maxSteps (cause : Text.NumeralError)
  /-- No program could be had from the file at `path`. -/
  | load (path : String) (cause : LoadError)
  | copy (cause : Fault)
  /-- The machine met a fault, after which it was as shown. -/
  | machine (shown : Trace) (cause : Fault)
  deriving DecidableEq

namespace Failure

/-- What was being done, if that is said, and then the causes, each the cause of the one before. -/
def messages : Failure → List String
  | .timerMillis cause => ["--timer-ms must be a number", cause.message]
  | .maxSteps cause => ["--max-steps must be a number", cause.message]
  | .load path cause => ("failed to load " ++ path) :: cause.causes
  | .copy cause => cause.causes
  | .machine shown cause => ("machine fault\n" ++ shown.line) :: cause.causes

end Failure

end ByteMachine.CommandLine
