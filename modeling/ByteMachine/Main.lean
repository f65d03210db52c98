import ByteMachine.CommandLine.LogFilter
import ByteMachine.CommandLine.Report
import ByteMachine.CommandLine.Session

/-! The program: a session in the surroundings of a process. -/

namespace ByteMachine.CommandLine

/-- What is said of arguments that cannot be read. -/
def usage : String := "usage: [--trace] [--timer-ms N] [--max-steps N] PROGRAM"

/-- The content of a file, or why there is none. -/
def readContent (path : String) : IO (Except ReadError ByteArray) := do
  try
    return .ok (← IO.FS.readBinFile path)
  catch
    | .noFileOrDirectory _ _ _ => return .error .missing
    | .inappropriateType _ 21 _ => return .error .directory
    | e => return .error (.system (toString e))

def writeOutput (output : List Byte) : IO Unit := do
  unless output.isEmpty do
    let stdout ← IO.getStdout
    stdout.write ⟨(output.map UInt8.ofBitVec).toArray⟩
    stdout.flush

def writeLines (lines : List String) : IO Unit := lines.forM fun line => IO.eprintln line

/-- The clock, the environment, the files and the streams of the process. -/
def Surroundings.process : Surroundings IO where
  now := IO.monoNanosNow
  directives := IO.getEnv "RUST_LOG"
  content := readContent
  write := writeOutput
  log := writeLines
  report messages := writeLines (Report.lines messages)

end ByteMachine.CommandLine

open ByteMachine.CommandLine in
def main (args : List String) : IO UInt32 :=
  match Arguments.parse args with
  | some args => do
    let code? ← session .process LogFilter.logger args
    return UInt32.ofNat (code?.getD 1)
  | none => do
    IO.eprintln usage
    return 1
