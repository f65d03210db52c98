import ByteMachine.Machine.Execute
import ByteMachine.Proofs.Stack

/-! The stack is a list of at most 255 bytes. Pushes and pops in any order answer as on such a list,
also after some of them were refused at either end. -/

namespace ByteMachine

inductive StackOp where
  | push (v : Byte)
  | pop
  deriving DecidableEq, Repr

namespace StackOp

def capacity : Nat := 255

/-- The operation on a list that holds as many bytes as the stack. It answers with the byte that it
put on the list or took off it. -/
def onList : List Byte → StackOp → List Byte × Except Fault Byte
  | l, .push v => if l.length < capacity then (v :: l, .ok v) else (l, .error .stackOverflow)
  | [], .pop => ([], .error .stackUnderflow)
  | v :: l, .pop => (l, .ok v)

/-- The state after one operation after another, and their answers. A refused operation does not
keep the next ones from being tried. -/
def each {σ : Type} (perform : σ → StackOp → σ × Except Fault Byte) (s : σ) :
    List StackOp → σ × List (Except Fault Byte)
  | [] => (s, [])
  | op :: ops =>
    let (s₁, answer) := perform s op
    let (s₂, answers) := each perform s₁ ops
    (s₂, answer :: answers)

/-- A view of the state that each single operation commutes with shows all of them. -/
theorem each_comp {σ τ : Type} {f : σ → StackOp → σ × Except Fault Byte}
    {g : τ → StackOp → τ × Except Fault Byte} (view : σ → τ)
    (h : ∀ s op, g (view s) op = (view (f s op).1, (f s op).2)) (s : σ) (ops : List StackOp) :
    each g (view s) ops = (view (each f s ops).1, (each f s ops).2) := by
  induction ops generalizing s with
  | nil => rfl
  | cons op ops ih => simp only [each, h, ih]

end StackOp

namespace Machine

/-- The bytes on the stack, the top first: those from the stack pointer up to 254. -/
def stack (m : Machine) : List Byte :=
  m.memory.block (m.reg Reg.sp) (255 - (m.reg Reg.sp).toNat)

theorem reg_sp_add_length_stack (m : Machine) :
    (m.reg Reg.sp).toNat + m.stack.length = StackOp.capacity := by
  have hlt := (m.reg Reg.sp).isLt
  rw [stack, Memory.length_block, StackOp.capacity]
  omega

/-- The operation on the machine, which stays as it is if the operation is refused. -/
def perform (m : Machine) : StackOp → Machine × Except Fault Byte
  | .push v =>
    match m.push v with
    | .ok m' => (m', .ok v)
    | .error f => (m, .error f)
  | .pop =>
    match m.pop with
    | .ok (v, m') => (m', .ok v)
    | .error f => (m, .error f)

def performAll (m : Machine) (ops : List StackOp) : Machine × List (Except Fault Byte) :=
  StackOp.each perform m ops

/-- The instruction performs the operation, and goes on unless it is refused. -/
theorem execute_push (m : Machine) (a : Reg) :
    m.execute (.push a) =
      match m.perform (.push (m.reg a)) with
      | (m', .ok _) => .done (m'.goto (m.pc + 2))
      | (m', .error f) => .stopped m' f := by
  by_cases hsp : m.reg Reg.sp = 0
  · simp [execute, act, perform, push, hsp, Outcome.andThen, Outcome.stopped]
  · simp [execute, act, perform, push_of_ne_zero _ hsp, Outcome.andThen, Outcome.done, goBehind_eq]

theorem execute_pop (m : Machine) (a : Reg) :
    m.execute (.pop a) =
      match m.perform .pop with
      | (m', .ok v) => .done ((m'.setReg a v).goto (m.pc + 2))
      | (m', .error f) => .stopped m' f := by
  by_cases hsp : m.reg Reg.sp = 255
  · simp [execute, act, perform, pop, hsp, Outcome.andThen, Outcome.stopped]
  · simp [execute, act, perform, pop_of_ne_last hsp, Outcome.andThen, Outcome.done, goBehind_eq]

theorem perform_push_of_ne_zero {m : Machine} (v : Byte) (h : m.reg Reg.sp ≠ 0) :
    m.perform (.push v) =
      ((m.setReg Reg.sp (m.reg Reg.sp - 1)).store (m.reg Reg.sp - 1) v, .ok v) := by
  simp [perform, push_of_ne_zero v h]

theorem perform_push_of_zero {m : Machine} (v : Byte) (h : m.reg Reg.sp = 0) :
    m.perform (.push v) = (m, .error .stackOverflow) := by
  simp [perform, push, h]

theorem perform_pop_of_ne_last {m : Machine} (h : m.reg Reg.sp ≠ 255) :
    m.perform .pop = (m.setReg Reg.sp (m.reg Reg.sp + 1), .ok (m.memory.load (m.reg Reg.sp))) := by
  simp [perform, pop_of_ne_last h]

theorem perform_pop_of_last {m : Machine} (h : m.reg Reg.sp = 255) :
    m.perform .pop = (m, .error .stackUnderflow) := by
  simp [perform, pop, h]

/-- An operation is refused or moves one byte. -/
theorem perform_cases (m : Machine) (op : StackOp) :
    (∃ f, m.perform op = (m, .error f)) ∨
      (∃ v, m.reg Reg.sp ≠ 0 ∧ m.perform op =
        ((m.setReg Reg.sp (m.reg Reg.sp - 1)).store (m.reg Reg.sp - 1) v, .ok v)) ∨
      m.perform op =
        (m.setReg Reg.sp (m.reg Reg.sp + 1), .ok (m.memory.load (m.reg Reg.sp))) := by
  cases op with
  | push v =>
    by_cases h : m.reg Reg.sp = 0
    · exact .inl ⟨_, perform_push_of_zero v h⟩
    · exact .inr (.inl ⟨v, h, perform_push_of_ne_zero v h⟩)
  | pop =>
    by_cases h : m.reg Reg.sp = 255
    · exact .inl ⟨_, perform_pop_of_last h⟩
    · exact .inr (.inr (perform_pop_of_ne_last h))

theorem perform_of_refused {m : Machine} {op : StackOp} {f : Fault}
    (h : (m.perform op).2 = .error f) : (m.perform op).1 = m := by
  obtain ⟨g, hp⟩ | ⟨v, -, hp⟩ | hp := m.perform_cases op
  · rw [hp]
  · rw [hp] at h
    cases h
  · rw [hp] at h
    cases h

theorem stack_push {m : Machine} (v : Byte) (h : m.reg Reg.sp ≠ 0) :
    ((m.setReg Reg.sp (m.reg Reg.sp - 1)).store (m.reg Reg.sp - 1) v).stack = v :: m.stack := by
  have hlt := (m.reg Reg.sp).isLt
  have htop : (m.reg Reg.sp - 1).toNat + 1 = (m.reg Reg.sp).toNat := toNat_sub_one h
  have hcount : 255 - (m.reg Reg.sp - 1).toNat = 255 - (m.reg Reg.sp).toNat + 1 := by omega
  -- The byte is stored right below the bytes that are on the stack already.
  have hold : (m.memory.store (m.reg Reg.sp - 1) v).block (m.reg Reg.sp)
      (255 - (m.reg Reg.sp).toNat) = m.stack := by
    have hinside : (m.reg Reg.sp).toNat + (255 - (m.reg Reg.sp).toNat) ≤ 256 := by omega
    apply Memory.block_congr hinside
    intro b hb _
    exact Memory.load_store_of_ne _ _ (by bv_omega)
  rw [stack, reg_store, reg_setReg_self, hcount, Memory.block, BitVec.sub_add_cancel,
    memory_store, memory_setReg, Memory.load_store_self, hold]

theorem stack_of_ne_last {m : Machine} (h : m.reg Reg.sp ≠ 255) :
    m.stack =
      m.memory.load (m.reg Reg.sp) :: (m.setReg Reg.sp (m.reg Reg.sp + 1)).stack := by
  have hcount : 255 - (m.reg Reg.sp).toNat = 255 - (m.reg Reg.sp + 1).toNat + 1 := by bv_omega
  rw [stack, hcount, Memory.block, stack, reg_setReg_self, memory_setReg]

theorem stack_of_last {m : Machine} (h : m.reg Reg.sp = 255) : m.stack = [] := by
  rw [stack, h]
  rfl

/-- An operation does to the stack what it does to the list, and gives the same answer. -/
theorem onList_stack (m : Machine) (op : StackOp) :
    StackOp.onList m.stack op = ((m.perform op).1.stack, (m.perform op).2) := by
  have hlength := m.reg_sp_add_length_stack
  cases op with
  | push v =>
    by_cases h : m.reg Reg.sp = 0
    · have hfull : ¬m.stack.length < StackOp.capacity := by simp [← hlength, h]
      rw [perform_push_of_zero v h, StackOp.onList, if_neg hfull]
    · have hpos : 0 < (m.reg Reg.sp).toNat := by bv_omega
      have hroom : m.stack.length < StackOp.capacity := by omega
      rw [perform_push_of_ne_zero v h, StackOp.onList, if_pos hroom, stack_push v h]
  | pop =>
    by_cases h : m.reg Reg.sp = 255
    · rw [perform_pop_of_last h, stack_of_last h]
      rfl
    · rw [perform_pop_of_ne_last h, stack_of_ne_last h]
      rfl

/-- The machines are the same but for the stack pointer and memory. -/
structure SameOffStack (m m' : Machine) : Prop where
  reg : ∀ r, r ≠ Reg.sp → m'.reg r = m.reg r
  pc : m'.pc = m.pc
  flags : m'.regs.flags = m.regs.flags
  savedMask : m'.savedMask = m.savedMask
  running : m'.running = m.running
  sink : m'.sink = m.sink

theorem SameOffStack.refl (m : Machine) : SameOffStack m m :=
  ⟨fun _ _ => rfl, rfl, rfl, rfl, rfl, rfl⟩

theorem SameOffStack.trans {m₁ m₂ m₃ : Machine} (h : SameOffStack m₁ m₂)
    (h' : SameOffStack m₂ m₃) : SameOffStack m₁ m₃ :=
  ⟨fun r hr => (h'.reg r hr).trans (h.reg r hr), h'.pc.trans h.pc, h'.flags.trans h.flags,
    h'.savedMask.trans h.savedMask, h'.running.trans h.running, h'.sink.trans h.sink⟩

theorem SameOffStack.setSp (m : Machine) (v : Byte) : SameOffStack m (m.setReg Reg.sp v) :=
  ⟨fun _ hr => m.reg_setReg_of_ne v hr, rfl, rfl, rfl, rfl, rfl⟩

theorem sameOffStack_perform (m : Machine) (op : StackOp) :
    SameOffStack m (m.perform op).1 := by
  obtain ⟨f, hp⟩ | ⟨v, -, hp⟩ | hp := m.perform_cases op
  · rw [hp]
    exact .refl m
  · rw [hp]
    exact (SameOffStack.setSp m _).trans ⟨fun _ _ => rfl, rfl, rfl, rfl, rfl, rfl⟩
  · rw [hp]
    exact .setSp m _

/-- Only a push stores, and it does so at the new stack pointer, which is never 255. -/
theorem load_perform (m : Machine) (op : StackOp) {a : Byte}
    (ha : a = 255 ∨ a < (m.perform op).1.reg Reg.sp) :
    (m.perform op).1.memory.load a = m.memory.load a := by
  obtain ⟨f, hp⟩ | ⟨v, hsp, hp⟩ | hp := m.perform_cases op
  · rw [hp]
  · rw [hp, reg_store, reg_setReg_self] at ha
    rw [hp]
    exact Memory.load_store_of_ne _ _ (by bv_omega)
  · rw [hp]
    rfl

theorem sameOffStack_performAll (m : Machine) (ops : List StackOp) :
    SameOffStack m (m.performAll ops).1 := by
  induction ops generalizing m with
  | nil => exact .refl m
  | cons op ops ih => exact (m.sameOffStack_perform op).trans (ih (m.perform op).1)

theorem load_performAll (m : Machine) (ops : List StackOp) {a : Byte}
    (ha : a = 255 ∨ ∀ k, a < (m.performAll (ops.take k)).1.reg Reg.sp) :
    (m.performAll ops).1.memory.load a = m.memory.load a := by
  induction ops generalizing m with
  | nil => rfl
  | cons op ops ih =>
    have hfirst : (m.perform op).1.memory.load a = m.memory.load a :=
      m.load_perform op (ha.imp_right fun hlow => hlow 1)
    have hrest : ((m.perform op).1.performAll ops).1.memory.load a =
        (m.perform op).1.memory.load a :=
      ih _ (ha.imp_right fun hlow k => hlow (k + 1))
    exact hrest.trans hfirst

/-- The operations, one after another, do to the machine what they do to the list of the bytes on
its stack. -/
structure FollowsList (m : Machine) (ops : List StackOp) : Prop where
  answers : (m.performAll ops).2 = (StackOp.each StackOp.onList m.stack ops).2
  stack : (m.performAll ops).1.stack = (StackOp.each StackOp.onList m.stack ops).1
  sp : ((m.performAll ops).1.reg Reg.sp).toNat + (m.performAll ops).1.stack.length = 255
  refused : ∀ (op : StackOp) (f : Fault), ((m.performAll ops).1.perform op).2 = .error f →
    ((m.performAll ops).1.perform op).1 = (m.performAll ops).1
  offStack : SameOffStack m (m.performAll ops).1
  last : (m.performAll ops).1.memory.load 255 = m.memory.load 255
  below : ∀ a : Byte, (∀ k, a < (m.performAll (ops.take k)).1.reg Reg.sp) →
    (m.performAll ops).1.memory.load a = m.memory.load a

/-- The stack refines a list of at most 255 bytes, whatever the machine and the operations are. -/
theorem performAll_followsList (m : Machine) (ops : List StackOp) : m.FollowsList ops := by
  have heach : StackOp.each StackOp.onList m.stack ops =
      ((m.performAll ops).1.stack, (m.performAll ops).2) :=
    StackOp.each_comp Machine.stack onList_stack m ops
  refine ⟨?_, ?_, ?_, ?_, ?_, ?_, ?_⟩
  · rw [heach]
  · rw [heach]
  · exact (m.performAll ops).1.reg_sp_add_length_stack
  · exact fun op f => perform_of_refused
  · exact m.sameOffStack_performAll ops
  · exact m.load_performAll ops (.inl rfl)
  · exact fun a ha => m.load_performAll ops (.inr ha)

/-- Both ends are met twice on the way. -/
example :
    (((fresh .unbounded).setReg Reg.sp 254).performAll [.pop, .pop, .push 7, .pop, .pop]).2 =
        [.ok 0, .error .stackUnderflow, .ok 7, .ok 7, .error .stackUnderflow] ∧
      (((fresh .unbounded).setReg Reg.sp 1).performAll
          [.push 7, .push 8, .pop, .push 9, .push 8]).2 =
        [.ok 7, .error .stackOverflow, .ok 7, .ok 9, .error .stackOverflow] := by
  constructor <;> rfl

end Machine

end ByteMachine
