import ByteMachine.Proofs.Attempt

/-! Cycles that go through, and runs of them. Such a cycle either dispatches an interrupt or executes
an instruction, and in both cases its rules say all about the machine after it. -/

namespace ByteMachine

/-- The machine with bytes put at the addresses that stand before them. -/
def Machine.patch (m : Machine) (bytes : List (Byte × Byte)) : Machine :=
  bytes.foldl (fun m p => m.store p.1 p.2) m

/-- A cycle that goes through. -/
structure Cycle extends Attempt where
  succeeds : toAttempt.fault = none

namespace Cycle

def writes (c : Cycle) : List Byte :=
  match c.before.pending?, c.polled.fetch with
  | some _, _ =>
    (List.range Slot.frame.length).map fun k => c.before.reg Reg.sp - 1 - BitVec.ofNat 8 k
  | none, .ok i => c.polled.stores i
  | none, .error _ => []

theorem dispatches_or_executes (c : Cycle) : (∃ n, c.Dispatches n) ∨ ∃ i, c.Executes i := by
  cases h : c.before.pending? with
  | some n => exact .inl ⟨n, h⟩
  | none =>
    obtain ⟨i, hi, -⟩ := Attempt.exists_effect h c.succeeds
    exact .inr ⟨i, hi⟩

theorem exists_of_pending {m : Machine} {n : Fin 8} (h : m.pending? = some n)
    (hpc : m.pc < Memory.size) (hsp : Slot.frame.length ≤ (m.reg Reg.sp).toNat) (tick : Bool) :
    ∃ c : Cycle, c.before = m ∧ c.tick = tick ∧ c.Dispatches n := by
  have hroom : (Slot.frame.map (Slot.get (m.acknowledge n).regs)).length ≤
      ((m.acknowledge n).reg Reg.sp).toNat := by
    rwa [List.length_map, Machine.reg_acknowledge]
  obtain ⟨m₁, hpush⟩ := Machine.pushAll_of_le hroom
  have hpc' : (m.acknowledge n).pc < Memory.size := hpc
  have hy : (m.step tick).Yields _ :=
    Machine.yields_step.2 ((Machine.yields_cycle_of_some h).2 (Machine.yields_dispatch hpc' hpush))
  exact ⟨⟨⟨m, tick⟩, hy.1⟩, rfl, rfl, h⟩

/-- A machine without a pending interrupt goes through the cycle of an instruction that it can fetch
and execute. -/
theorem exists_of_effect {m m' : Machine} {tick : Bool} {i : Instruction} (h : m.pending? = none)
    (hf : (m.poll tick).fetch = .ok i) (he : Effect (m.poll tick) i m') :
    ∃ c : Cycle, c.before = m ∧ c.tick = tick ∧ c.Executes i ∧ c.after = m' := by
  have hy := Machine.yields_step.2 ((Machine.yields_cycle_of_none h).2 ⟨i, hf, he⟩)
  exact ⟨⟨⟨m, tick⟩, hy.1⟩, rfl, rfl, ⟨h, hf⟩, hy.2⟩

/-- While a mask is put aside, only a return takes it back. -/
theorem savedMask_after {c : Cycle} {mask : Byte} (h : c.before.savedMask = some mask)
    (hret : ¬c.Executes .iret) : c.after.savedMask = some mask := by
  obtain ⟨i, hi⟩ := c.dispatches_or_executes.resolve_left fun ⟨n, hn⟩ => by
    cases (Machine.pending?_of_some h).symm.trans hn
  have hne : i ≠ .iret := by
    rintro rfl
    exact hret hi
  rw [(hi.effect c.succeeds).savedMask hne, c.savedMask_polled, h]

theorem writes_of_dispatches {c : Cycle} {n : Fin 8} (h : c.Dispatches n) :
    c.writes =
      (List.range Slot.frame.length).map fun k => c.before.reg Reg.sp - 1 - BitVec.ofNat 8 k := by
  unfold writes
  rw [show c.before.pending? = some n from h]

theorem writes_of_executes {c : Cycle} {i : Instruction} (h : c.Executes i) :
    c.writes = c.polled.stores i := by
  unfold writes
  rw [h.1, h.2]

theorem load_of_notMem_writes {c : Cycle} {a : Byte} (ha : a ∉ c.writes) :
    c.after.memory.load a = c.before.memory.load a := by
  rcases c.dispatches_or_executes with ⟨n, h⟩ | ⟨i, h⟩
  · have hd := h.dispatched c.succeeds
    apply hd.outside
    refine Decidable.byContradiction fun hin => ?_
    rw [not_or, BitVec.not_lt, BitVec.not_le] at hin
    -- Such an address is that of the byte pushed as number `k`.
    have hk : a = c.before.reg Reg.sp - 1 -
        BitVec.ofNat 8 ((c.before.reg Reg.sp).toNat - 1 - a.toNat) := by
      bv_omega
    rw [writes_of_dispatches h] at ha
    apply ha
    rw [hk]
    refine List.mem_map_of_mem (List.mem_range.2 ?_)
    have hsp := hd.sp
    bv_omega
  · rw [writes_of_executes h] at ha
    rw [(h.effect c.succeeds).load_of_notMem ha, c.memory_polled]

end Cycle

/-- `Reaches m cs m'`: the cycles `cs`, one after another, lead from `m` to `m'`. -/
inductive Reaches : Machine → List Cycle → Machine → Prop where
  | nil (m : Machine) : Reaches m [] m
  | cons (c : Cycle) {cs : List Cycle} {m' : Machine} :
    Reaches c.after cs m' → Reaches c.before (c :: cs) m'

namespace Reaches

theorem single (c : Cycle) : Reaches c.before [c] c.after := .cons c (.nil _)

theorem append {m m₁ m' : Machine} {cs ds : List Cycle} (h : Reaches m cs m₁)
    (h' : Reaches m₁ ds m') : Reaches m (cs ++ ds) m' := by
  induction h with
  | nil => exact h'
  | cons c _ ih => exact .cons c (ih h')

theorem load_of_notMem_writes {m m' : Machine} {cs : List Cycle} {a : Byte} (h : Reaches m cs m')
    (ha : ∀ c ∈ cs, a ∉ c.writes) : m'.memory.load a = m.memory.load a := by
  induction h with
  | nil => rfl
  | cons c _ ih =>
    rw [List.forall_mem_cons] at ha
    rw [ih ha.2, Cycle.load_of_notMem_writes ha.1]

theorem savedMask {m m' : Machine} {cs : List Cycle} {mask : Byte} (h : Reaches m cs m')
    (hm : m.savedMask = some mask) (hret : ∀ c ∈ cs, ¬c.Executes .iret) :
    m'.savedMask = some mask := by
  induction h with
  | nil => exact hm
  | cons c _ ih =>
    rw [List.forall_mem_cons] at hret
    exact ih (Cycle.savedMask_after hm hret.1) hret.2

end Reaches

end ByteMachine
