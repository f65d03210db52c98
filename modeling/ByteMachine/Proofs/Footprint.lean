import ByteMachine.Proofs.Effect
import ByteMachine.Proofs.Stack

/-! What an instruction touches: the registers its operands name, the one that takes its result and
the bytes it reads and stores. All else is as before once the instruction has gone through. -/

namespace ByteMachine

namespace Instruction

def named : Instruction → List Reg
  | .unary _ a | .ldi a _ | .push a | .pop a | .prn a | .pra a | .call a | .int a | .jump _ a => [a]
  | .binary _ a b | .ld a b | .st a b => [a, b]
  | .nop | .hlt | .ret | .iret | .skip _ => []

/-- The named register that takes the result. A comparison has none. -/
def dest? : Instruction → Option Reg
  | .unary _ a | .ldi a _ | .ld a _ | .pop a => some a
  | .binary op a _ => if op = .cmp then none else some a
  | _ => none

/-- Whether the instruction leaves the stack alone, apart from what its operands say. -/
def offStack : Instruction → Bool
  | .push _ | .pop _ | .call _ | .ret | .iret => false
  | _ => true

/-- The number of bytes that are read to fetch the instruction. -/
def fetched : Instruction → Nat
  | .nop | .hlt | .ret | .iret | .skip _ => 1
  | .unary _ _ | .push _ | .pop _ | .prn _ | .pra _ | .call _ | .int _ | .jump _ _ => 2
  | .binary _ _ _ | .ldi _ _ | .ld _ _ | .st _ _ => 3

theorem mem_named_of_dest? {i : Instruction} {r : Reg} (h : i.dest? = some r) : r ∈ i.named := by
  cases i <;> simp_all [dest?, named]

end Instruction

namespace BinaryOp

theorem ne_cmp_of_value {op : BinaryOp} {a b v : Byte} (h : op.apply a b = .ok (.value v)) :
    op ≠ .cmp := by
  rintro rfl
  simp [apply] at h

theorem eq_cmp_of_flags {op : BinaryOp} {a b f : Byte} (h : op.apply a b = .ok (.flags f)) :
    op = .cmp ∧ f = (Flag.compare a b).bit := by
  cases op with
  | cmp => exact ⟨rfl, (AluResult.flags.inj (Except.ok.inj h)).symm⟩
  | div | mod =>
    rw [apply] at h
    split at h <;> simp at h
  | _ => simp [apply] at h

end BinaryOp

namespace Machine

def stores (m : Machine) : Instruction → List Byte
  | .st a _ => [m.reg a]
  | .push _ | .call _ => [m.reg Reg.sp - 1]
  | _ => []

/-- The addresses that are read to fetch the instruction and, if it is one, to load its byte. What
it pops is not among them. -/
def reads (m : Machine) (i : Instruction) : List Nat :=
  (List.range i.fetched).map (m.pc + ·) ++
    match i with
    | .ld _ b => [(m.reg b).toNat]
    | _ => []

@[simp] theorem memory_unmask (m : Machine) : m.unmask.memory = m.memory := by
  unfold unmask
  split <;> rfl

@[simp] theorem pc_unmask (m : Machine) : m.unmask.pc = m.pc := by
  unfold unmask
  split <;> rfl

@[simp] theorem flags_unmask (m : Machine) : m.unmask.regs.flags = m.regs.flags := by
  unfold unmask
  split <;> rfl

@[simp] theorem sink_unmask (m : Machine) : m.unmask.sink = m.sink := by
  unfold unmask
  split <;> rfl

theorem reg_unmask_of_ne (m : Machine) {r : Reg} (h : r ≠ Reg.im) : m.unmask.reg r = m.reg r := by
  unfold unmask
  split
  · rw [reg_setReg, if_neg h]
    rfl
  · rfl

theorem unmask_of_some {m : Machine} {mask : Byte} (h : m.savedMask = some mask) :
    m.unmask.reg Reg.im = mask ∧ m.unmask.savedMask = none := by
  simp [unmask, h]

@[simp] theorem savedMask_unmask (m : Machine) : m.unmask.savedMask = none := by
  unfold unmask
  split
  · rfl
  · next h => exact h

end Machine

namespace Effect

variable {m m' : Machine} {i : Instruction}

theorem exists_popped (h : Effect m .iret m') :
    ∃ m₁, Machine.Popped m Slot.frame.reverse m₁ ∧ m' = m₁.unmask := by
  cases h with
  | iret hp => exact ⟨_, Machine.popped_of_popAll hp (by decide) (by decide), rfl⟩

theorem load_of_notMem (h : Effect m i m') {a : Byte} (ha : a ∉ m.stores i) :
    m'.memory.load a = m.memory.load a := by
  cases h with
  | st b c => exact Memory.load_store_of_ne _ _ (by simpa [Machine.stores] using ha)
  | push b => exact Memory.load_store_of_ne _ _ (by simpa [Machine.stores] using ha)
  | call b => exact Memory.load_store_of_ne _ _ (by simpa [Machine.stores] using ha)
  | iret hp =>
    obtain ⟨m₁, hm, he⟩ := exists_popped (.iret hp)
    rw [he, Machine.memory_unmask, hm.memory]
  | _ => rfl

/-- Only a comparison and a return touch the flags. -/
theorem flags_of_ne (h : Effect m i m') (hcmp : ∀ a b, i ≠ .binary .cmp a b) (hret : i ≠ .iret) :
    m'.regs.flags = m.regs.flags := by
  cases h with
  | @flags op a b f h =>
    obtain ⟨rfl, -⟩ := BinaryOp.eq_cmp_of_flags h
    exact absurd rfl (hcmp a b)
  | iret => exact absurd rfl hret
  | _ => rfl

theorem flags_of_cmp {a b : Reg} (h : Effect m (.binary .cmp a b) m') :
    m'.regs.flags = (Flag.compare (m.reg a) (m.reg b)).bit := by
  cases h with
  | value h => exact absurd rfl (BinaryOp.ne_cmp_of_value h)
  | flags h => exact (BinaryOp.eq_cmp_of_flags h).2

theorem savedMask (h : Effect m i m') (hi : i ≠ .iret) : m'.savedMask = m.savedMask := by
  cases h with
  | iret => exact absurd rfl hi
  | _ => rfl

/-- A register is as before unless it takes the result, is the stack pointer of an operation on the
stack or holds the requests to which one is added. A return sets them all. -/
theorem reg_of_ne (h : Effect m i m') {r : Reg} (hd : i.dest? ≠ some r) (hret : i ≠ .iret)
    (hsp : r = Reg.sp → i.offStack) (his : r = Reg.is → ∀ a, i ≠ .int a) :
    m'.reg r = m.reg r := by
  cases h with
  | unary op a => exact Machine.reg_setReg_of_ne _ _ fun e => hd (congrArg some e.symm)
  | ldi a v => exact Machine.reg_setReg_of_ne _ _ fun e => hd (congrArg some e.symm)
  | ld a b => exact Machine.reg_setReg_of_ne _ _ fun e => hd (congrArg some e.symm)
  | @value op a b v h =>
    have hdest : (Instruction.binary op a b).dest? = some a :=
      if_neg (BinaryOp.ne_cmp_of_value h)
    exact Machine.reg_setReg_of_ne _ _ fun e => hd (hdest.trans (congrArg some e.symm))
  | push a | call a | ret => exact Machine.reg_setReg_of_ne _ _ fun e => by cases hsp e
  | pop a =>
    have hne : r ≠ a := fun e => hd (congrArg some e.symm)
    exact (Machine.reg_setReg_of_ne _ _ hne).trans
      (Machine.reg_setReg_of_ne _ _ fun e => by cases hsp e)
  | @int a n h => exact Machine.reg_setReg_of_ne _ _ fun e => his e a rfl
  | iret => exact absurd rfl hret
  | _ => rfl

/-- An instruction off the stack whose result does not go there keeps the stack pointer. -/
theorem reg_sp (h : Effect m i m') (hi : i.offStack) (hd : i.dest? ≠ some Reg.sp) :
    m'.reg Reg.sp = m.reg Reg.sp := by
  refine h.reg_of_ne hd ?_ (fun _ => hi) (fun e => absurd e (by decide))
  rintro rfl
  cases hi

end Effect

end ByteMachine
