import ByteMachine.Machine.Stack

/-! Interrupts. A dispatch puts the mask aside, so that no other interrupt is dispatched before the
handler returns, and pushes a frame; a return pops the frame and restores the mask. -/

namespace ByteMachine

inductive Slot where
  | pc
  | flags
  | reg (r : Reg)
  deriving DecidableEq, Repr

namespace Slot

def get (regs : Registers) : Slot → Byte
  | .pc => BitVec.ofNat 8 regs.pc
  | .flags => regs.flags
  | .reg r => regs.get r

def set (regs : Registers) (v : Byte) : Slot → Registers
  | .pc => { regs with pc := v.toNat }
  | .flags => { regs with flags := v }
  | .reg r => regs.set r v

/-- The slots of a frame in the order in which they are pushed. -/
def frame : List Slot := .pc :: .flags :: Reg.belowStack.map .reg

end Slot

namespace Machine

/-- The address that holds the address of the handler of interrupt `n`. -/
def vectorTable : Byte := 0xF8

/-- The interrupt that the timer requests. -/
def timerInterrupt : Fin 8 := ⟨0, by decide⟩

def request (n : Fin 8) (m : Machine) : Machine :=
  m.setReg Reg.is (m.reg Reg.is ||| Byte.bit n)

/-- The interrupt to dispatch: the lowest that is requested and not masked out. There is none
while a mask is put aside. -/
def pending? (m : Machine) : Option (Fin 8) :=
  match m.savedMask with
  | some _ => none
  | none => Byte.lowest? (m.reg Reg.im &&& m.reg Reg.is)

/-- The machine with its mask put aside and interrupt `n` no longer requested. -/
def acknowledge (n : Fin 8) (m : Machine) : Machine :=
  ({ m with savedMask := some (m.reg Reg.im) }.setReg Reg.im 0).setReg Reg.is
    (m.reg Reg.is &&& ~~~Byte.bit n)

/-- Hands control to the handler of interrupt `n`. The handler's address is read after the frame
has been pushed. -/
def dispatch (n : Fin 8) (m : Machine) : Outcome :=
  .after (.interrupt n (m.reg Reg.im) (m.reg Reg.is)) <|
    let m := m.acknowledge n
    if m.pc < Memory.size then
      match m.pushAll (Slot.frame.map (Slot.get m.regs)) with
      | (m, none) => .done (m.goto (m.memory.load (vectorTable + BitVec.ofNat 8 n)).toNat)
      | (m, some fault) => .stopped m fault
    else .stopped m (.outOfBounds m.pc)

/-- Pops a byte into each slot. Slots filled before the stack runs out stay filled. -/
def popAll (m : Machine) : List Slot → Machine × Option Fault
  | [] => (m, none)
  | slot :: slots =>
    match m.pop with
    | .ok (v, m) => { m with regs := slot.set m.regs v }.popAll slots
    | .error fault => (m, some fault)

/-- Returns from an interrupt. The mask comes back from where it was put aside; if it was not, it
stays as popped. -/
def interruptReturn (m : Machine) : Outcome :=
  match m.popAll Slot.frame.reverse with
  | (m, some fault) => .stopped m fault
  | (m, none) =>
    match m.savedMask with
    | some mask =>
      .after (.interruptReturn m.pc) (.done ({ m with savedMask := none }.setReg Reg.im mask))
    | none => .after (.strayReturn m.pc) (.done m)

end Machine

end ByteMachine
