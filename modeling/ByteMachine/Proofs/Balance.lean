import ByteMachine.Proofs.Episode

/-! Balanced runs: every push is matched by a pop, every call by a return and every dispatch by the
return of its handler, to any depth. Such a run gives the stack back as it found it. -/

namespace ByteMachine

namespace Machine

/-- `m'` has the stack of `m`: the stack pointer, the bytes from there upwards and the mask put
aside. -/
structure StackKept (m m' : Machine) : Prop where
  sp : m'.reg Reg.sp = m.reg Reg.sp
  savedMask : m'.savedMask = m.savedMask
  load : ∀ a : Byte, m.reg Reg.sp ≤ a → m'.memory.load a = m.memory.load a

/-- One byte, `v`, was put on the stack of `m`, which left `m'`. -/
structure PutsOn (m : Machine) (v : Byte) (m' : Machine) : Prop where
  room : m.reg Reg.sp ≠ 0
  sp : m'.reg Reg.sp = m.reg Reg.sp - 1
  savedMask : m'.savedMask = m.savedMask
  top : m'.memory.load (m.reg Reg.sp - 1) = v
  load : ∀ a : Byte, m.reg Reg.sp ≤ a → m'.memory.load a = m.memory.load a

/-- One byte, `v`, was taken off the stack of `m`, which left `m'`. -/
structure TakesOff (m : Machine) (v : Byte) (m' : Machine) : Prop where
  sp : m'.reg Reg.sp = m.reg Reg.sp + 1
  savedMask : m'.savedMask = m.savedMask
  top : m.memory.load (m.reg Reg.sp) = v
  memory : m'.memory = m.memory

namespace StackKept

variable {m m₁ m₂ m' : Machine}

theorem refl (m : Machine) : m.StackKept m := ⟨rfl, rfl, fun _ _ => rfl⟩

theorem trans (h : m.StackKept m₁) (h' : m₁.StackKept m') : m.StackKept m' where
  sp := h'.sp.trans h.sp
  savedMask := h'.savedMask.trans h.savedMask
  load a ha := (h'.load a (by rwa [h.sp])).trans (h.load a ha)

theorem poll (m : Machine) (tick : Bool) : m.StackKept (m.poll tick) where
  sp := reg_poll_of_ne m tick (by decide)
  savedMask := savedMask_poll m tick
  load a _ := by rw [memory_poll]

theorem sameFrame (h : m.StackKept m')
    (hroom : (m.reg Reg.sp).toNat + Slot.frame.length ≤ Memory.size) : m'.SameFrame m :=
  ⟨h.sp, Memory.block_congr hroom fun b hb _ => h.load b hb⟩

/-- What is taken off after the stack was kept is what was put on before. -/
theorem of_putsOn {v w : Byte} (hon : m.PutsOn v m₁) (h : m₁.StackKept m₂)
    (hoff : m₂.TakesOff w m') : m.StackKept m' ∧ w = v := by
  have hdown := toNat_sub_one hon.room
  have hle : m₁.reg Reg.sp ≤ m.reg Reg.sp - 1 := by
    rw [hon.sp]
    exact BitVec.le_refl _
  refine ⟨⟨?_, ?_, ?_⟩, ?_⟩
  · rw [hoff.sp, h.sp, hon.sp]
    exact BitVec.sub_add_cancel _ _
  · rw [hoff.savedMask, h.savedMask, hon.savedMask]
  · intro a ha
    rw [hoff.memory, h.load a (by bv_omega), hon.load a ha]
  · rw [← hoff.top, h.sp, hon.sp, h.load _ hle, hon.top]

end StackKept

end Machine

namespace Effect

variable {m m' : Machine} {a : Reg}

theorem putsOn_push (h : Effect m (.push a) m') : m.PutsOn (m.reg a) m' := by
  cases h with
  | push a h0 =>
    have hdown := Machine.toNat_sub_one h0
    refine ⟨h0, by simp, rfl, by simp, ?_⟩
    intro b hb
    exact Memory.load_store_of_ne _ _ (by bv_omega)

theorem putsOn_call (h : Effect m (.call a) m') : m.PutsOn (BitVec.ofNat 8 (m.pc + 2)) m' := by
  cases h with
  | call a hpc h0 =>
    have hdown := Machine.toNat_sub_one h0
    refine ⟨h0, by simp, rfl, by simp, ?_⟩
    intro b hb
    exact Memory.load_store_of_ne _ _ (by bv_omega)

theorem pc_lt_of_call (h : Effect m (.call a) m') : m.pc + 2 < Memory.size := by
  cases h with
  | call a hpc _ => exact hpc

theorem takesOff_pop (h : Effect m (.pop a) m') (ha : a ≠ Reg.sp) :
    m.TakesOff (m'.reg a) m' := by
  cases h with
  | pop a hlast =>
    refine ⟨?_, rfl, by simp, rfl⟩
    rw [Machine.reg_goto, Machine.reg_setReg_of_ne _ _ ha.symm, Machine.reg_setReg_self]

theorem takesOff_ret (h : Effect m .ret m') :
    m.TakesOff (m.memory.load (m.reg Reg.sp)) m' ∧
      m'.pc = (m.memory.load (m.reg Reg.sp)).toNat := by
  cases h with
  | ret hlast => exact ⟨⟨by simp, rfl, rfl, rfl⟩, rfl⟩

end Effect

inductive Bracket where
  | push (a b : Reg) (opening closing : Cycle)
  | call (opening closing : Cycle)
  | interrupt (opening closing : Cycle)

/-- The closing cycle gives back what the opening one put on the stack: the value of a register, the
address after the call or the registers of the interrupted program. -/
def Bracket.Matches : Bracket → Prop
  | .push a b o c =>
    o.after.memory.load (o.after.reg Reg.sp) = o.polled.reg a ∧ c.after.reg b = o.polled.reg a
  | .call o c => c.after.pc = o.before.pc + 2
  | .interrupt o c =>
    c.after.pc = o.before.pc ∧ c.after.regs.flags = o.before.regs.flags ∧
      ∀ r, r ≠ Reg.is → c.after.reg r = o.before.reg r

/-- The instruction is none of the stack, and what it stores or computes is not live there. -/
structure Cycle.Level (c : Cycle) (i : Instruction) : Prop where
  offStack : i.offStack
  dest : i.dest? ≠ some Reg.sp
  below : ∀ a b, i = .st a b → c.polled.reg a < c.before.reg Reg.sp

/-- `Balanced m bs m'`: a balanced run from `m` to `m'` with the brackets `bs`. -/
inductive Balanced : Machine → List Bracket → Machine → Prop where
  | nil (m : Machine) : Balanced m [] m
  | append {m m₁ m' : Machine} {bs bs' : List Bracket} :
    Balanced m bs m₁ → Balanced m₁ bs' m' → Balanced m (bs ++ bs') m'
  | single {c : Cycle} {i : Instruction} :
    c.Executes i → c.Level i → Balanced c.before [] c.after
  | push {o c : Cycle} {a b : Reg} {bs : List Bracket} :
    o.Executes (.push a) → Balanced o.after bs c.before → c.Executes (.pop b) → b ≠ Reg.sp →
      Balanced o.before (.push a b o c :: bs) c.after
  | call {o c : Cycle} {a : Reg} {bs : List Bracket} :
    o.Executes (.call a) → Balanced o.after bs c.before → c.Executes .ret →
      Balanced o.before (.call o c :: bs) c.after
  | interrupt {o c : Cycle} {n : Fin 8} {bs : List Bracket} :
    o.Dispatches n → Balanced o.after bs c.before → c.Executes .iret →
      Balanced o.before (.interrupt o c :: bs) c.after

namespace Cycle

variable {o c : Cycle}

theorem stackKept_of_level {i : Instruction} (hi : c.Executes i) (hl : c.Level i) :
    c.before.StackKept c.after := by
  have hsp := c.reg_sp_polled
  refine (Machine.StackKept.poll c.before c.tick).trans ⟨?_, ?_, ?_⟩
  · exact (hi.effect c.succeeds).reg_sp hl.offStack hl.dest
  · apply (hi.effect c.succeeds).savedMask
    rintro rfl
    cases hl.offStack
  · intro a ha
    apply (hi.effect c.succeeds).load_of_notMem
    cases i with
    | st b d =>
      have hbelow := hl.below b d rfl
      have hle : c.before.reg Reg.sp ≤ a := hsp ▸ ha
      simp only [Machine.stores, List.mem_singleton]
      bv_omega
    | push | call => cases hl.offStack
    | _ => exact List.not_mem_nil

theorem kept_of_push {a b : Reg} (ho : o.Executes (.push a))
    (h : o.after.StackKept c.before) (hc : c.Executes (.pop b)) (hb : b ≠ Reg.sp) :
    o.before.StackKept c.after ∧ (Bracket.push a b o c).Matches := by
  have hon := (ho.effect o.succeeds).putsOn_push
  obtain ⟨hkept, hv⟩ :=
    (h.trans (.poll c.before c.tick)).of_putsOn hon ((hc.effect c.succeeds).takesOff_pop hb)
  exact ⟨(Machine.StackKept.poll o.before o.tick).trans hkept, hon.sp ▸ hon.top, hv⟩

theorem kept_of_call {a : Reg} (ho : o.Executes (.call a)) (h : o.after.StackKept c.before)
    (hc : c.Executes .ret) : o.before.StackKept c.after ∧ (Bracket.call o c).Matches := by
  obtain ⟨hoff, hpc⟩ := (hc.effect c.succeeds).takesOff_ret
  obtain ⟨hkept, hv⟩ :=
    (h.trans (.poll c.before c.tick)).of_putsOn (ho.effect o.succeeds).putsOn_call hoff
  have hlt := (ho.effect o.succeeds).pc_lt_of_call
  refine ⟨(Machine.StackKept.poll o.before o.tick).trans hkept, ?_⟩
  rw [Bracket.Matches, hpc, hv, BitVec.toNat_ofNat, Nat.mod_eq_of_lt hlt, o.pc_polled]

theorem kept_of_dispatch {n : Fin 8} (ho : o.Dispatches n) (h : o.after.StackKept c.before)
    (hc : c.Executes .iret) : o.before.StackKept c.after ∧ (Bracket.interrupt o c).Matches := by
  have hd := ho.dispatched o.succeeds
  have hsp := hd.sp
  have hframe : c.before.SameFrame o.after :=
    h.sameFrame (hsp ▸ Nat.le_of_lt (BitVec.isLt _))
  have hr := restored_of_sameFrame ho hc hframe
  have him := reg_im_of_savedMask ho hc h.savedMask
  refine ⟨⟨?_, ?_, ?_⟩, hr.pc, hr.flags, ?_⟩
  · exact hr.reg Reg.sp (by decide) (by decide)
  · rw [hr.savedMask, Machine.savedMask_of_pending? ho]
  · intro a ha
    have hlow : o.after.reg Reg.sp ≤ a := by bv_omega
    have hret : c.after.memory.load a = c.polled.memory.load a :=
      (hc.effect c.succeeds).load_of_notMem List.not_mem_nil
    rw [hret, c.memory_polled, h.load a hlow, hd.outside a (.inr ha)]
  · intro r his
    by_cases hrim : r = Reg.im
    · rw [hrim, him]
    · exact hr.reg r hrim his

end Cycle

/-- A balanced run keeps the stack, and each of its brackets gives back what it put there. -/
theorem Balanced.stackKept_and_matches {m m' : Machine} {bs : List Bracket}
    (h : Balanced m bs m') : m.StackKept m' ∧ ∀ b ∈ bs, b.Matches := by
  induction h with
  | nil m => exact ⟨.refl m, List.forall_mem_nil _⟩
  | append _ _ ih ih' =>
    refine ⟨ih.1.trans ih'.1, ?_⟩
    intro b hb
    exact (List.mem_append.1 hb).elim (ih.2 b) (ih'.2 b)
  | single hi hl => exact ⟨Cycle.stackKept_of_level hi hl, List.forall_mem_nil _⟩
  | push ho _ hc hb ih =>
    obtain ⟨hkept, hmatch⟩ := Cycle.kept_of_push ho ih.1 hc hb
    exact ⟨hkept, List.forall_mem_cons.2 ⟨hmatch, ih.2⟩⟩
  | call ho _ hc ih =>
    obtain ⟨hkept, hmatch⟩ := Cycle.kept_of_call ho ih.1 hc
    exact ⟨hkept, List.forall_mem_cons.2 ⟨hmatch, ih.2⟩⟩
  | interrupt ho _ hc ih =>
    obtain ⟨hkept, hmatch⟩ := Cycle.kept_of_dispatch ho ih.1 hc
    exact ⟨hkept, List.forall_mem_cons.2 ⟨hmatch, ih.2⟩⟩

def nestedTarget : Reg := ⟨3, by decide⟩

def nestedPopped : Reg := ⟨4, by decide⟩

/-- The machine pushes its mask, calls the routine at 16, which only returns, and pops into R4.
Interrupt 0 is let through, and its handler at address 32 only returns as well. -/
def nested : Machine :=
  (((Machine.fresh .unbounded).setReg nestedTarget 16).setReg Reg.im 1).patch
    [(0, 0x45), (1, 5), (2, 0x50), (3, 3), (4, 0x46), (5, 4), (16, 0x11), (32, 0x13), (0xF8, 32)]

def nestedPush : Cycle := ⟨⟨nested, false⟩, by decide +kernel⟩

def nestedCall : Cycle := ⟨⟨nestedPush.after, true⟩, by decide +kernel⟩

def nestedDispatch : Cycle := ⟨⟨nestedCall.after, false⟩, by decide +kernel⟩

def nestedHandlerReturn : Cycle := ⟨⟨nestedDispatch.after, false⟩, by decide +kernel⟩

def nestedReturn : Cycle := ⟨⟨nestedHandlerReturn.after, false⟩, by decide +kernel⟩

def nestedPop : Cycle := ⟨⟨nestedReturn.after, false⟩, by decide +kernel⟩

def nestedBrackets : List Bracket :=
  [.push Reg.im nestedPopped nestedPush nestedPop, .call nestedCall nestedReturn,
    .interrupt nestedDispatch nestedHandlerReturn]

theorem nested_balanced : Balanced nested nestedBrackets nestedPop.after := by
  have hpush : nestedPush.Executes (.push Reg.im) := by decide +kernel
  have hcall : nestedCall.Executes (.call nestedTarget) := by decide +kernel
  have hdispatch : nestedDispatch.Dispatches 0 := by decide +kernel
  apply Balanced.push hpush _ (by decide +kernel) (by decide +kernel)
  apply Balanced.call hcall _ (by decide +kernel)
  exact Balanced.interrupt hdispatch (.nil _) (by decide +kernel)

theorem stackKept_and_matches_nested :
    Balanced nested nestedBrackets nestedPop.after ∧
      nested.StackKept nestedPop.after ∧ ∀ b ∈ nestedBrackets, b.Matches :=
  ⟨nested_balanced, nested_balanced.stackKept_and_matches⟩

end ByteMachine
