import ByteMachine.CommandLine.Session
import ByteMachine.Proofs.Ending
import ByteMachine.Proofs.Printing

/-! Sessions in recording surroundings. What a cycle yields is taken away from the system as it
comes; the record puts it together again, so that it holds what the same run gathers if nothing is
taken away. -/

namespace ByteMachine

/-- The sink with output given back that had been taken away from it. -/
def Sink.restore (s : Sink) (output : Array Byte) : Sink :=
  { s with written := output ++ s.written }

namespace System

variable {s : System}

/-- The system with output and events given back that had been taken away from it. -/
def restore (s : System) (output : Array Byte) (log : Array Event) : System where
  machine := s.machine.withSink (s.machine.sink.restore output)
  timer := s.timer
  log := log ++ s.log

end System

def Run.restore (r : Run) (output : Array Byte) (log : Array Event) : Run :=
  { r with system := r.system.restore output log }

def Finished.restore (done : Finished) (output : Array Byte) (log : Array Event) : Finished :=
  { done with system := done.system.restore output log }

def Finished.drain (done : Finished) : Finished := { done with system := done.system.drain }

namespace CommandLine

variable {spec : Option String} {files : String → Except ReadError ByteArray} {clock : Nat → Nat}
variable {logger : Logger} {filter : logger.Filter}

variable {warnings : List String} {looks : Nat} {output : Array Byte} {log : Array Event}

end CommandLine

end ByteMachine
