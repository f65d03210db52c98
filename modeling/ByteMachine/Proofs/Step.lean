import ByteMachine.Proofs.Refusal

/-! A step of the machine, when it goes through and when it meets a fault. It either dispatches an
interrupt, by rules of its own, or asks the timer and does what the instruction does. -/

namespace ByteMachine

namespace Machine

@[simp] theorem pc_poll (m : Machine) (tick : Bool) : (m.poll tick).pc = m.pc := by
  cases tick <;> rfl

@[simp] theorem flags_poll (m : Machine) (tick : Bool) :
    (m.poll tick).regs.flags = m.regs.flags := by
  cases tick <;> rfl

@[simp] theorem memory_poll (m : Machine) (tick : Bool) : (m.poll tick).memory = m.memory := by
  cases tick <;> rfl

@[simp] theorem savedMask_poll (m : Machine) (tick : Bool) :
    (m.poll tick).savedMask = m.savedMask := by
  cases tick <;> rfl

@[simp] theorem sink_poll (m : Machine) (tick : Bool) : (m.poll tick).sink = m.sink := by
  cases tick <;> rfl

theorem reg_poll_of_ne (m : Machine) (tick : Bool) {r : Reg} (h : r ≠ Reg.is) :
    (m.poll tick).reg r = m.reg r := by
  cases tick
  · rfl
  · exact reg_setReg_of_ne m _ h

theorem reg_acknowledge (m : Machine) (n : Fin 8) (r : Reg) :
    (m.acknowledge n).reg r =
      if r = Reg.is then m.reg Reg.is &&& ~~~Byte.bit n
      else if r = Reg.im then 0 else m.reg r := by
  simp only [acknowledge, reg_setReg]
  rfl

theorem pending?_of_some {m : Machine} {mask : Byte} (h : m.savedMask = some mask) :
    m.pending? = none := by
  simp [pending?, h]

theorem savedMask_of_pending? {m : Machine} {n : Fin 8} (h : m.pending? = some n) :
    m.savedMask = none := by
  cases hm : m.savedMask with
  | none => rfl
  | some mask => simp [pending?_of_some hm] at h

/-- Interrupt `n` is dispatched on `m`, which leaves `m'`. -/
structure Dispatched (n : Fin 8) (m m' : Machine) : Prop where
  pc_lt : m.pc < Memory.size
  sp : (m'.reg Reg.sp).toNat + Slot.frame.length = (m.reg Reg.sp).toNat
  reg : ∀ r, r ≠ Reg.im → r ≠ Reg.is → r ≠ Reg.sp → m'.reg r = m.reg r
  im : m'.reg Reg.im = 0
  is : m'.reg Reg.is = m.reg Reg.is &&& ~~~Byte.bit n
  flags : m'.regs.flags = m.regs.flags
  savedMask : m'.savedMask = some (m.reg Reg.im)
  sink : m'.sink = m.sink
  frame : m'.memory.block (m'.reg Reg.sp) Slot.frame.length =
    Slot.frame.reverse.map (Slot.get (m.acknowledge n).regs)
  outside : ∀ a : Byte, a < m'.reg Reg.sp ∨ m.reg Reg.sp ≤ a → m'.memory.load a = m.memory.load a
  pc : m'.pc = (m'.memory.load (vectorTable + BitVec.ofNat 8 n)).toNat

theorem dispatched_of_yields {n : Fin 8} {m m' : Machine} (h : (m.dispatch n).Yields m') :
    Dispatched n m m' := by
  simp only [dispatch, Outcome.yields_after] at h
  by_cases hpc : (m.acknowledge n).pc < Memory.size
  · rw [if_pos hpc] at h
    split at h
    · next m₁ hpush =>
      obtain rfl := Outcome.yields_done.1 h
      have hp := pushed_of_pushAll hpush
      have hack := reg_acknowledge m n
      have hsp : (m.acknowledge n).reg Reg.sp = m.reg Reg.sp := hack Reg.sp
      constructor
      · exact hpc
      · simpa [hsp] using hp.sp
      · intro r him his hsp
        rw [reg_goto, hp.reg r hsp, hack, if_neg his, if_neg him]
      · exact (hp.reg Reg.im (by decide)).trans (hack Reg.im)
      · exact (hp.reg Reg.is (by decide)).trans (hack Reg.is)
      · exact hp.flags
      · exact hp.savedMask
      · exact hp.sink
      · simpa [List.map_reverse] using hp.block
      · intro a ha
        exact hp.outside a (by rwa [hsp])
      · rfl
    · exact (Outcome.not_yields_stopped h).elim
  · rw [if_neg hpc] at h
    exact (Outcome.not_yields_stopped h).elim

theorem yields_dispatch {n : Fin 8} {m m₁ : Machine} (hpc : (m.acknowledge n).pc < Memory.size)
    (hpush : (m.acknowledge n).pushAll (Slot.frame.map (Slot.get (m.acknowledge n).regs)) =
      (m₁, none)) :
    (m.dispatch n).Yields (m₁.goto (m₁.memory.load (vectorTable + BitVec.ofNat 8 n)).toNat) := by
  simp [dispatch, hpc, hpush]

/-- A step and the cycle in it go through together and leave the same machine. -/
theorem yields_step {m m' : Machine} {tick : Bool} :
    (m.step tick).Yields m' ↔ (m.cycle tick).Yields m' := by
  unfold step
  cases h : (m.cycle tick).fault <;> simp [Outcome.Yields, h]

theorem yields_cycle_of_some {m m' : Machine} {n : Fin 8} {tick : Bool} (h : m.pending? = some n) :
    (m.cycle tick).Yields m' ↔ (m.dispatch n).Yields m' := by
  simp [cycle, h]

theorem yields_cycle_of_none {m m' : Machine} {tick : Bool} (h : m.pending? = none) :
    (m.cycle tick).Yields m' ↔
      ∃ i, (m.poll tick).fetch = .ok i ∧ Effect (m.poll tick) i m' := by
  simp only [cycle, h, executeNext, Outcome.yields_after]
  split
  · next i hi => simp [hi, Effect.iff_yields_execute]
  · next hf => simp [hf]

theorem fails_step {m m' : Machine} {tick : Bool} {f : Fault} :
    (m.step tick).Fails f m' ↔ ∃ m₁, (m.cycle tick).Fails f m₁ ∧ m' = m₁.halt := by
  unfold step
  cases h : (m.cycle tick).fault with
  | none => simp [Outcome.Fails, h]
  | some g => simp [Outcome.Fails, h, eq_comm, and_assoc]

theorem fails_cycle_of_none {m m' : Machine} {tick : Bool} {f : Fault} (h : m.pending? = none) :
    (m.cycle tick).Fails f m' ↔
      ((m.poll tick).fetch = .error f ∧ m' = m.poll tick) ∨
        ∃ i, (m.poll tick).fetch = .ok i ∧ Refusal (m.poll tick) i f m' := by
  simp only [cycle, h, executeNext, Outcome.fails_after]
  split
  · next i hi => simp [hi, Refusal.iff_fails_execute]
  · next g hg => simp [hg, eq_comm]

/-- A dispatch that meets a fault has put the mask aside and not moved the counter. -/
theorem kept_of_fails_dispatch {m m' : Machine} {n : Fin 8} {f : Fault}
    (h : (m.dispatch n).Fails f m') : m'.pc = m.pc ∧ m'.savedMask = some (m.reg Reg.im) := by
  simp only [dispatch, Outcome.fails_after] at h
  split at h
  · have hkept := (m.acknowledge n).pushAll_kept (Slot.frame.map (Slot.get (m.acknowledge n).regs))
    split at h
    · exact (Outcome.not_fails_done h).elim
    · next m₁ g hpush =>
      obtain ⟨-, rfl⟩ := Outcome.fails_stopped.1 h
      rwa [hpush] at hkept
  · obtain ⟨-, rfl⟩ := Outcome.fails_stopped.1 h
    exact ⟨rfl, rfl⟩

end Machine

end ByteMachine
