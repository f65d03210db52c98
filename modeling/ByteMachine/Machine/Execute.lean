import ByteMachine.Instruction
import ByteMachine.Machine.Interrupt
import ByteMachine.Text.Utf8

/-! The effect of one instruction. Apart from a return from an interrupt, whose pops stay done,
and from output, of which the sink keeps what it took, a faulting instruction changes nothing. -/

namespace ByteMachine.Machine

/-- What is printed for a number: its decimal numeral on a line. -/
def numberText (v : Byte) : List Char := (Radix.decimal v.toNat).toList ++ ['\n']

/-- What is printed for a character: the character with that code point. -/
def characterText (v : Byte) : List Char := [Char.ofNat v.toNat]

def print (m : Machine) (text : List Char) : Outcome :=
  match m.sink.write (Text.utf8 text) with
  | (sink, none) => .done { m with sink := sink }
  | (sink, some cause) => .stopped { m with sink := sink } (.output cause)

def flush (m : Machine) : Outcome :=
  match m.sink.flush with
  | (sink, none) => .done { m with sink := sink }
  | (sink, some cause) => .stopped { m with sink := sink } (.output cause)

/-- What the instruction itself does. Those that set the program counter go where they say; the
others leave it at their opcode. -/
def act (m : Machine) : Instruction → Outcome
  | .unary op a => .done (m.setReg a (op.apply (m.reg a)))
  | .binary op a b =>
    match op.apply (m.reg a) (m.reg b) with
    | .ok (.value v) => .done (m.setReg a v)
    | .ok (.flags f) => .done (m.setFlags f)
    | .error fault => .stopped m fault
  | .nop => .done m
  | .hlt => .after (.halted m.pc) (.done m.halt)
  | .ldi a v => .done (m.setReg a v)
  | .ld a b => .done (m.setReg a (m.memory.load (m.reg b)))
  | .st a b => .done (m.store (m.reg a) (m.reg b))
  | .push a =>
    match m.push (m.reg a) with
    | .ok m => .done m
    | .error fault => .stopped m fault
  | .pop a =>
    match m.pop with
    | .ok (v, m) => .done (m.setReg a v)
    | .error fault => .stopped m fault
  | .prn a => m.print (numberText (m.reg a))
  | .pra a => (m.print (characterText (m.reg a))).andThen flush
  | .call a =>
    let back := m.pc + 2
    if back < Memory.size then
      match m.push (BitVec.ofNat 8 back) with
      | .ok m' => .done (m'.goto (m.reg a).toNat)
      | .error fault => .stopped m fault
    else .stopped m (.outOfBounds back)
  | .ret =>
    match m.pop with
    | .ok (v, m) => .done (m.goto v.toNat)
    | .error fault => .stopped m fault
  | .int a =>
    if h : (m.reg a).toNat < 8 then
      .done ((m.request ⟨(m.reg a).toNat, h⟩).goto (m.pc + 2))
    else .stopped m (.invalidInterrupt (m.reg a))
  | .iret => m.interruptReturn
  | .jump _ a => .done (m.goto (m.reg a).toNat)
  | .skip _ => .done (m.goto (m.pc + 2))

/-- Goes on behind the instruction, unless it set the program counter. -/
def goBehind (m : Machine) (i : Instruction) : Machine :=
  if i.setsPc then m else m.goto (m.pc + i.length)

theorem goBehind_eq (m : Machine) (i : Instruction) :
    m.goBehind i =
      match i with
      | .nop | .hlt => m.goto (m.pc + 1)
      | .unary _ _ | .push _ | .pop _ | .prn _ | .pra _ => m.goto (m.pc + 2)
      | .binary _ _ _ | .ldi _ _ | .ld _ _ | .st _ _ => m.goto (m.pc + 3)
      | .call _ | .ret | .int _ | .iret | .jump _ _ | .skip _ => m := by
  rw [goBehind, i.setsPc_eq, i.length_eq]
  cases i <;> rfl

/-- Executes the instruction that stands at the program counter. -/
def execute (m : Machine) (i : Instruction) : Outcome :=
  (m.act i).andThen fun m => .done (m.goBehind i)

end ByteMachine.Machine
