import ByteMachine.Event
import ByteMachine.Sink

/-! The state of the machine and the outcome of doing something with it. -/

namespace ByteMachine

structure Machine where
  regs : Registers
  memory : Memory
  /-- The interrupt mask that a dispatched interrupt put aside, until its handler returns. -/
  savedMask : Option Byte
  running : Bool
  sink : Sink
  deriving DecidableEq

namespace Machine

/-- A machine at the start, with its output going to `sink`. -/
def fresh (sink : Sink) : Machine := ⟨.initial, .zero, none, false, sink⟩

def pc (m : Machine) : Nat := m.regs.pc

def reg (m : Machine) (r : Reg) : Byte := m.regs.get r

def setReg (m : Machine) (r : Reg) (v : Byte) : Machine := { m with regs := m.regs.set r v }

def setFlags (m : Machine) (flags : Byte) : Machine :=
  { m with regs := { m.regs with flags := flags } }

def goto (m : Machine) (pc : Nat) : Machine := { m with regs := { m.regs with pc := pc } }

def store (m : Machine) (a v : Byte) : Machine := { m with memory := m.memory.store a v }

def halt (m : Machine) : Machine := { m with running := false }

def trace (m : Machine) : Trace := .of m.regs m.memory

@[simp] theorem reg_setReg_self (m : Machine) (r : Reg) (v : Byte) : (m.setReg r v).reg r = v := by
  simp [reg, setReg]

theorem reg_setReg (m : Machine) (r s : Reg) (v : Byte) :
    (m.setReg r v).reg s = if s = r then v else m.reg s := by
  simp [reg, setReg, Registers.get_set]

theorem reg_setReg_of_ne (m : Machine) {r s : Reg} (v : Byte) (h : s ≠ r) :
    (m.setReg r v).reg s = m.reg s :=
  Registers.get_set_of_ne m.regs v h

@[simp] theorem reg_goto (m : Machine) (pc : Nat) (r : Reg) : (m.goto pc).reg r = m.reg r := rfl

@[simp] theorem pc_goto (m : Machine) (pc : Nat) : (m.goto pc).pc = pc := rfl

@[simp] theorem pc_setReg (m : Machine) (r : Reg) (v : Byte) : (m.setReg r v).pc = m.pc := rfl

@[simp] theorem reg_store (m : Machine) (a v : Byte) (r : Reg) :
    (m.store a v).reg r = m.reg r :=
  rfl

@[simp] theorem memory_store (m : Machine) (a v : Byte) :
    (m.store a v).memory = m.memory.store a v :=
  rfl

@[simp] theorem memory_setReg (m : Machine) (r : Reg) (v : Byte) :
    (m.setReg r v).memory = m.memory :=
  rfl

@[simp] theorem reg_setFlags (m : Machine) (f : Byte) (r : Reg) :
    (m.setFlags f).reg r = m.reg r :=
  rfl

@[simp] theorem reg_halt (m : Machine) (r : Reg) : m.halt.reg r = m.reg r := rfl

@[simp] theorem reg_withSink (m : Machine) (sink : Sink) (r : Reg) :
    ({ m with sink := sink } : Machine).reg r = m.reg r :=
  rfl

@[simp] theorem pc_withSink (m : Machine) (sink : Sink) :
    ({ m with sink := sink } : Machine).pc = m.pc :=
  rfl

@[simp] theorem pc_setFlags (m : Machine) (f : Byte) : (m.setFlags f).pc = m.pc := rfl

@[simp] theorem pc_store (m : Machine) (a v : Byte) : (m.store a v).pc = m.pc := rfl

@[simp] theorem pc_halt (m : Machine) : m.halt.pc = m.pc := rfl

@[simp] theorem flags_setReg (m : Machine) (r : Reg) (v : Byte) :
    (m.setReg r v).regs.flags = m.regs.flags :=
  rfl

@[simp] theorem flags_setFlags (m : Machine) (f : Byte) : (m.setFlags f).regs.flags = f := rfl

@[simp] theorem flags_goto (m : Machine) (pc : Nat) : (m.goto pc).regs.flags = m.regs.flags := rfl

@[simp] theorem flags_store (m : Machine) (a v : Byte) :
    (m.store a v).regs.flags = m.regs.flags :=
  rfl

@[simp] theorem flags_halt (m : Machine) : m.halt.regs.flags = m.regs.flags := rfl

@[simp] theorem memory_goto (m : Machine) (pc : Nat) : (m.goto pc).memory = m.memory := rfl

@[simp] theorem memory_setFlags (m : Machine) (f : Byte) : (m.setFlags f).memory = m.memory := rfl

@[simp] theorem memory_halt (m : Machine) : m.halt.memory = m.memory := rfl

@[simp] theorem savedMask_setReg (m : Machine) (r : Reg) (v : Byte) :
    (m.setReg r v).savedMask = m.savedMask :=
  rfl

@[simp] theorem savedMask_setFlags (m : Machine) (f : Byte) :
    (m.setFlags f).savedMask = m.savedMask :=
  rfl

@[simp] theorem savedMask_goto (m : Machine) (pc : Nat) : (m.goto pc).savedMask = m.savedMask :=
  rfl

@[simp] theorem savedMask_store (m : Machine) (a v : Byte) :
    (m.store a v).savedMask = m.savedMask :=
  rfl

@[simp] theorem savedMask_halt (m : Machine) : m.halt.savedMask = m.savedMask := rfl

@[simp] theorem sink_setReg (m : Machine) (r : Reg) (v : Byte) : (m.setReg r v).sink = m.sink :=
  rfl

@[simp] theorem sink_setFlags (m : Machine) (f : Byte) : (m.setFlags f).sink = m.sink := rfl

@[simp] theorem sink_goto (m : Machine) (pc : Nat) : (m.goto pc).sink = m.sink := rfl

@[simp] theorem sink_store (m : Machine) (a v : Byte) : (m.store a v).sink = m.sink := rfl

@[simp] theorem sink_halt (m : Machine) : m.halt.sink = m.sink := rfl

end Machine

/-- A machine after some work, the fault that cut the work short, if any, and what was reported
on the way. What was done before a fault stays done. -/
structure Outcome where
  machine : Machine
  fault : Option Fault
  events : List Event
  deriving DecidableEq

namespace Outcome

def done (m : Machine) : Outcome := ⟨m, none, []⟩

def stopped (m : Machine) (fault : Fault) : Outcome := ⟨m, some fault, []⟩

/-- Goes on from the machine unless there was a fault. -/
def andThen (o : Outcome) (next : Machine → Outcome) : Outcome :=
  match o.fault with
  | some _ => o
  | none =>
    let p := next o.machine
    { p with events := o.events ++ p.events }

/-- The same outcome with an event reported before those of the work. -/
def after (event : Event) (o : Outcome) : Outcome := { o with events := event :: o.events }

end Outcome

end ByteMachine
