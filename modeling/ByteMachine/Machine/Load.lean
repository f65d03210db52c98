import ByteMachine.Machine.Basic

/-! Bringing a program into memory. -/

namespace ByteMachine.Machine

/-- Copies the program to address 0 upwards. A program that does not fit is copied as far as it
does. -/
def load (m : Machine) (program : List Byte) : Outcome :=
  let (memory, fault) := m.memory.writeBlock 0 program
  ⟨{ m with memory := memory }, fault, [.loading program.length]⟩

end ByteMachine.Machine
