import ByteMachine.Proofs.Cycle

/-! Interrupt episodes: a dispatch, its handler and the return that finds the frame as the dispatch
left it. Whatever the handler does, the registers come back as they were. -/

namespace ByteMachine

namespace Machine

/-- The stack pointer and the bytes of a frame from there upwards are those of `m₁`. -/
def SameFrame (m m₁ : Machine) : Prop :=
  m.reg Reg.sp = m₁.reg Reg.sp ∧
    m.memory.block (m₁.reg Reg.sp) Slot.frame.length =
      m₁.memory.block (m₁.reg Reg.sp) Slot.frame.length

instance (m m₁ : Machine) : Decidable (m.SameFrame m₁) :=
  inferInstanceAs (Decidable (_ ∧ _))

/-- `m'` has the registers of `m`, with interrupt `n` no longer requested. The mask is left open. -/
structure Restored (n : Fin 8) (m m' : Machine) : Prop where
  pc : m'.pc = m.pc
  flags : m'.regs.flags = m.regs.flags
  reg : ∀ r, r ≠ Reg.im → r ≠ Reg.is → m'.reg r = m.reg r
  is : m'.reg Reg.is = m.reg Reg.is &&& ~~~Byte.bit n
  savedMask : m'.savedMask = none

end Machine

namespace Cycle

variable {d r : Cycle} {n : Fin 8}

theorem reg_sp_of_sameFrame (hf : r.before.SameFrame d.after) :
    r.polled.reg Reg.sp = d.after.reg Reg.sp :=
  r.reg_sp_polled.trans hf.1

/-- A return to the frame of a dispatch pops the registers that the dispatch pushed. -/
theorem exists_popped_of_sameFrame (hd : d.Dispatches n) (hr : r.Executes .iret)
    (hf : r.before.SameFrame d.after) :
    ∃ m, Machine.Popped r.polled Slot.frame.reverse m ∧ r.after = m.unmask ∧
      ∀ s ∈ Slot.frame, s.get m.regs = s.get (d.before.acknowledge n).regs := by
  obtain ⟨m, hp, hafter⟩ := (hr.effect r.succeeds).exists_popped
  refine ⟨m, hp, hafter, ?_⟩
  have hvalues : Slot.frame.reverse.map (Slot.get m.regs) =
      Slot.frame.reverse.map (Slot.get (d.before.acknowledge n).regs) := by
    rw [hp.values, reg_sp_of_sameFrame hf, r.memory_polled, List.length_reverse, hf.2,
      (hd.dispatched d.succeeds).frame]
  intro s hs
  exact List.map_inj_left.1 hvalues s (List.mem_reverse.2 hs)

theorem restored_of_sameFrame (hd : d.Dispatches n) (hr : r.Executes .iret)
    (hf : r.before.SameFrame d.after) : Machine.Restored n d.before r.after := by
  obtain ⟨m, hp, hafter, hslots⟩ := exists_popped_of_sameFrame hd hr hf
  rw [hafter]
  have hack := Machine.reg_acknowledge d.before n
  constructor
  · -- The counter is pushed as a byte; both counters are small enough to be told from it.
    have hlt : m.pc < Memory.size := hp.pc_lt (by decide)
    have hpc : BitVec.ofNat 8 m.pc = BitVec.ofNat 8 d.before.pc := hslots .pc (by decide)
    have hnat := congrArg BitVec.toNat hpc
    rw [BitVec.toNat_ofNat, BitVec.toNat_ofNat, Nat.mod_eq_of_lt hlt,
      Nat.mod_eq_of_lt (hd.dispatched d.succeeds).pc_lt] at hnat
    rw [Machine.pc_unmask, hnat]
  · rw [Machine.flags_unmask]
    exact hslots .flags (by decide)
  · intro q him his
    rw [Machine.reg_unmask_of_ne m him]
    by_cases hq : q = Reg.sp
    · -- The stack pointer is not in the frame: it comes back by as many pops as pushes.
      subst hq
      have hup := hp.sp
      have hdown := (hd.dispatched d.succeeds).sp
      rw [reg_sp_of_sameFrame hf, List.length_reverse] at hup
      exact BitVec.eq_of_toNat_eq (hup.trans hdown)
    · have hmem : ∀ q : Reg, q ≠ Reg.sp → Slot.reg q ∈ Slot.frame := by decide
      have hget := (hslots (.reg q) (hmem q hq)).trans (hack q)
      rwa [if_neg his, if_neg him] at hget
  · rw [Machine.reg_unmask_of_ne m (by decide)]
    exact (hslots (.reg Reg.is) (by decide)).trans (hack Reg.is)
  · exact Machine.savedMask_unmask m

theorem reg_im_of_savedMask (hd : d.Dispatches n) (hr : r.Executes .iret)
    (hs : r.before.savedMask = d.after.savedMask) : r.after.reg Reg.im = d.before.reg Reg.im := by
  obtain ⟨m, hp, hafter⟩ := (hr.effect r.succeeds).exists_popped
  have hmask : m.savedMask = some (d.before.reg Reg.im) := by
    rw [hp.savedMask, r.savedMask_polled, hs, (hd.dispatched d.succeeds).savedMask]
  rw [hafter]
  exact (Machine.unmask_of_some hmask).1

end Cycle

/-- An interrupt episode: the dispatch, any cycles, and a return that finds the frame of the
dispatch on top of the stack. -/
structure Episode where
  interrupt : Fin 8
  dispatch : Cycle
  handler : List Cycle
  exit : Cycle
  dispatches : dispatch.Dispatches interrupt
  handles : Reaches dispatch.after handler exit.before
  frame : exit.before.SameFrame dispatch.after
  returns : exit.Executes .iret

namespace Episode

def before (e : Episode) : Machine := e.dispatch.before

def after (e : Episode) : Machine := e.exit.after

def cycles (e : Episode) : List Cycle := e.dispatch :: (e.handler ++ [e.exit])

theorem reaches (e : Episode) : Reaches e.before e.cycles e.after :=
  .cons e.dispatch (e.handles.append (.single e.exit))

theorem restored (e : Episode) : Machine.Restored e.interrupt e.before e.after :=
  Cycle.restored_of_sameFrame e.dispatches e.returns e.frame

/-- A handler that does not return before the episode does leaves the mask put aside, so that it
comes back. -/
theorem reg_im (e : Episode) (h : ∀ c ∈ e.handler, ¬c.Executes .iret) :
    e.after.reg Reg.im = e.before.reg Reg.im := by
  have hmask := (e.dispatches.dispatched e.dispatch.succeeds).savedMask
  have hkept := e.handles.savedMask hmask h
  exact Cycle.reg_im_of_savedMask e.dispatches e.returns (hkept.trans hmask.symm)

end Episode

end ByteMachine
