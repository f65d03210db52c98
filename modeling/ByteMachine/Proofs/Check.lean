import ByteMachine.Proofs.Encoding

/-! The conditions under which a step meets a fault, in the order in which they are checked, and how
the operands of an instruction are read under them. -/

namespace ByteMachine

/-- A condition and the fault that is met if it holds. -/
structure Check where
  fails : Bool
  fault : Fault
  deriving DecidableEq

namespace Check

def fault? (c : Check) : Option Fault := if c.fails then some c.fault else none

/-- The fault of the first check that fails. -/
def first? (cs : List Check) : Option Fault := cs.findSome? fault?

@[simp] theorem first?_nil : first? [] = none := rfl

theorem first?_cons (c : Check) (cs : List Check) :
    first? (c :: cs) = if c.fails then some c.fault else first? cs := by
  cases h : c.fails <;> simp [first?, fault?, h]

theorem exists_of_first? {cs : List Check} {f : Fault} (h : first? cs = some f) :
    ∃ c ∈ cs, c.fails ∧ c.fault = f := by
  obtain ⟨c, hc, hf⟩ := List.exists_of_findSome?_eq_some h
  exact ⟨c, hc, by simpa [fault?] using hf⟩

theorem first?_append (cs ds : List Check) : first? (cs ++ ds) = (first? cs).or (first? ds) :=
  List.findSome?_append

end Check

namespace Machine

/-- The value of the register that the operand byte `k` past the opcode names. -/
def argument (m : Machine) (k : Nat) : Byte :=
  match Reg.ofNat? (m.code k).toNat with
  | some r => m.reg r
  | none => 0

def operandCheck (m : Machine) (k : Nat) : Check :=
  ⟨m.pc + k = Memory.size, .outOfBounds Memory.size⟩

def registerCheck (m : Machine) (k : Nat) : Check :=
  ⟨7 < (m.code k).toNat, .invalidRegister (m.code k)⟩

/-- The operand bytes of which the opcode tells are inside memory and name registers, but for the
second one of a load of a constant. -/
def operandChecks (m : Machine) (op : Operation) : List Check :=
  match Opcode.operandCount op.opcode with
  | 0 => []
  | 1 => [m.operandCheck 1, m.registerCheck 1]
  | _ =>
    [m.operandCheck 1, m.registerCheck 1, m.operandCheck 2] ++
      if op = .control .ldi then [] else [m.registerCheck 2]

/-- What is checked once the operands are read. -/
def effectChecks (m : Machine) : Operation → List Check
  | .alu (.binary .div) | .alu (.binary .mod) => [⟨m.argument 2 = 0, .divisionByZero⟩]
  | .control .int => [⟨7 < (m.argument 1).toNat, .invalidInterrupt (m.argument 1)⟩]
  | .control .call =>
    [⟨m.pc = 254, .outOfBounds Memory.size⟩, ⟨m.reg Reg.sp = 0, .stackOverflow⟩]
  | .control .push => [⟨m.reg Reg.sp = 0, .stackOverflow⟩]
  | .control .pop | .control .ret => [⟨m.reg Reg.sp = 255, .stackUnderflow⟩]
  | .control .iret => [⟨246 < (m.reg Reg.sp).toNat, .stackUnderflow⟩]
  | _ => []

/-- Whether the operation is a jump that is not taken. -/
def skips (m : Machine) : Operation → Bool
  | .control (.jump condition) => !condition.holds m.regs.flags
  | _ => false

def pcCheck (m : Machine) : Check := ⟨Memory.size ≤ m.pc, .outOfBounds m.pc⟩

def instructionChecks (m : Machine) : List Check :=
  m.pcCheck ::
    match Operation.decode (m.code 0) with
    | none => [⟨true, .unsupportedOperation (m.code 0)⟩]
    | some op => (if m.skips op then [] else m.operandChecks op) ++ m.effectChecks op

def dispatchChecks (m : Machine) : List Check :=
  [m.pcCheck, ⟨(m.reg Reg.sp).toNat < 9, .stackOverflow⟩]

/-- The checks of one step, those of the output apart. -/
def checks (tick : Bool) (m : Machine) : List Check :=
  if m.savedMask = none ∧ m.reg Reg.im &&& m.reg Reg.is ≠ 0 then m.dispatchChecks
  else (m.poll tick).instructionChecks

end Machine

/-- The fault in place of a result. -/
def faultOf? {α : Type} : Except Fault α → Option Fault
  | .ok _ => none
  | .error f => some f

theorem faultOf?_bind_pure {α β : Type} (x : Except Fault α) (g : α → β) :
    faultOf? (do return g (← x)) = faultOf? x := by
  cases x <;> rfl

theorem faultOf?_bind_bind_pure {α β γ : Type} (x : Except Fault α) (y : Except Fault β)
    (g : α → β → γ) :
    faultOf? (do return g (← x) (← y)) = (faultOf? x).or (faultOf? y) := by
  cases x <;> cases y <;> rfl

namespace Machine

variable {m : Machine}

theorem faultOf?_operand {k : Nat} (h : m.pc + k ≤ Memory.size) :
    faultOf? (m.operand k) = Check.first? [m.operandCheck k] := by
  rw [Check.first?_cons]
  by_cases hk : m.pc + k = Memory.size
  · simp [operand_of_le (Nat.le_of_eq hk.symm), operandCheck, hk, faultOf?]
  · simp [operand_of_lt (Nat.lt_of_le_of_ne h hk), operandCheck, hk, faultOf?]

theorem faultOf?_operandReg {k : Nat} (h : m.pc + k ≤ Memory.size) :
    faultOf? (m.operandReg k) = Check.first? [m.operandCheck k, m.registerCheck k] := by
  rw [Check.first?_cons, Check.first?_cons]
  by_cases hk : m.pc + k = Memory.size
  · simp [operandReg, operand_of_le (Nat.le_of_eq hk.symm), operandCheck, hk, faultOf?, bind,
      Except.bind]
  · have hread : m.operandReg k = Reg.ofOperand (m.code k) := by
      rw [operandReg, operand_of_lt (Nat.lt_of_le_of_ne h hk)]
      rfl
    rw [hread, Reg.ofOperand]
    split
    · next hlt => simp [operandCheck, registerCheck, hk, faultOf?]; omega
    · next hge => simp [operandCheck, registerCheck, hk, faultOf?]; omega

/-- The second operand is only looked at if the first one passes its checks. -/
theorem faultOf?_two_operands {α β : Type} {x : Except Fault α} {cs : List Check}
    {g : Reg → α → β} (hpc : m.pc < Memory.size)
    (hx : m.pc + 2 ≤ Memory.size → faultOf? x = Check.first? cs) :
    faultOf? (do return g (← m.operandReg 1) (← x)) =
      Check.first? ([m.operandCheck 1, m.registerCheck 1] ++ cs) := by
  rw [faultOf?_bind_bind_pure, faultOf?_operandReg hpc, Check.first?_append]
  -- `hx` does not apply where memory ends before the first operand, but then `x` is not reached.
  by_cases hend : m.pc + 1 = Memory.size
  · simp [Check.first?_cons, operandCheck, hend]
  · rw [hx (Nat.lt_of_le_of_ne hpc hend)]

theorem operandChecks_unary (m : Machine) (op : UnaryOp) :
    m.operandChecks (.alu (.unary op)) = [m.operandCheck 1, m.registerCheck 1] := by
  cases op <;> rfl

theorem operandChecks_binary (m : Machine) (op : BinaryOp) :
    m.operandChecks (.alu (.binary op)) =
      [m.operandCheck 1, m.registerCheck 1] ++ [m.operandCheck 2, m.registerCheck 2] := by
  cases op <;> rfl

theorem operandChecks_jump (m : Machine) (c : Condition) :
    m.operandChecks (.control (.jump c)) = [m.operandCheck 1, m.registerCheck 1] := by
  cases c <;> rfl

/-- Making an instruction of the operation fails as the checks of its operands do. -/
theorem faultOf?_instruction (hpc : m.pc < Memory.size) (op : Operation) :
    faultOf? (m.instruction op) =
      if m.skips op then none else Check.first? (m.operandChecks op) := by
  rcases op with (op | op) | op
  · rw [operandChecks_unary]
    exact (faultOf?_bind_pure _ _).trans (faultOf?_operandReg hpc)
  · rw [operandChecks_binary]
    exact faultOf?_two_operands hpc faultOf?_operandReg
  · cases op with
    | nop | hlt | ret | iret => rfl
    | push | pop | prn | pra | call | int =>
      exact (faultOf?_bind_pure _ _).trans (faultOf?_operandReg hpc)
    | ld | st => exact faultOf?_two_operands hpc faultOf?_operandReg
    | ldi => exact faultOf?_two_operands hpc faultOf?_operand
    | jump c =>
      rw [instruction, skips, operandChecks_jump]
      cases c.holds m.regs.flags with
      | false => rfl
      | true => exact (faultOf?_bind_pure _ _).trans (faultOf?_operandReg hpc)

end Machine

end ByteMachine
