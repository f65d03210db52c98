import ByteMachine.Proofs.Episode
import Mathlib.Data.Fintype.Card
import Mathlib.Data.List.Sort

/-! Episodes one right after another. They serve the requested interrupts from the lowest upwards,
each once, and then the interrupted program goes on as if nothing had happened. -/

namespace ByteMachine

/-- `Chain m es m'`: the episodes `es` lead from `m` to `m'`, each beginning in the cycle after the
return that ends the one before. No handler returns twice. -/
inductive Chain : Machine → List Episode → Machine → Prop where
  | nil (m : Machine) : Chain m [] m
  | cons (e : Episode) {es : List Episode} {m' : Machine} :
    (∀ c ∈ e.handler, ¬c.Executes .iret) → Chain e.after es m' → Chain e.before (e :: es) m'

namespace Machine

/-- The interrupts that are requested and let through. -/
def requests (m : Machine) : Byte := m.reg Reg.im &&& m.reg Reg.is

/-- `m'` is `m` with the requests for the interrupts `ns` served. -/
structure Served (ns : List (Fin 8)) (m m' : Machine) : Prop where
  pc : m'.pc = m.pc
  flags : m'.regs.flags = m.regs.flags
  reg : ∀ r, r ≠ Reg.is → m'.reg r = m.reg r
  is : ∀ k : Fin 8, (m'.reg Reg.is).getLsbD k = ((m.reg Reg.is).getLsbD k && decide (k ∉ ns))
  savedMask : m'.savedMask = none

theorem Served.refl {m : Machine} (h : m.savedMask = none) : Served [] m m :=
  ⟨rfl, rfl, fun _ _ => rfl, by simp, h⟩

theorem Served.trans {m m₁ m' : Machine} {ns ns' : List (Fin 8)} (h : Served ns m m₁)
    (h' : Served ns' m₁ m') : Served (ns ++ ns') m m' where
  pc := h'.pc.trans h.pc
  flags := h'.flags.trans h.flags
  reg r hr := (h'.reg r hr).trans (h.reg r hr)
  is k := by
    rw [h'.is, h.is, Bool.and_assoc]
    congr 1
    simp [List.mem_append, not_or]
  savedMask := h'.savedMask

theorem getLsbD_requests_of_served {m m' : Machine} {ns : List (Fin 8)} (h : Served ns m m')
    (k : Fin 8) : m'.requests.getLsbD k = (m.requests.getLsbD k && decide (k ∉ ns)) := by
  rw [requests, requests, BitVec.getLsbD_and, BitVec.getLsbD_and, h.reg Reg.im (by decide), h.is,
    Bool.and_assoc]

theorem lowest?_requests_of_pending? {m : Machine} {n : Fin 8} (h : m.pending? = some n) :
    Byte.lowest? m.requests = some n := by
  rwa [pending?, savedMask_of_pending? h] at h

theorem requests_of_pending?_none {m : Machine} (h : m.pending? = none)
    (hs : m.savedMask = none) : m.requests = 0 := by
  rw [pending?, hs] at h
  exact (Byte.lowest?_eq_none_iff _).1 h

end Machine

namespace Episode

theorem served (e : Episode) (h : ∀ c ∈ e.handler, ¬c.Executes .iret) :
    Machine.Served [e.interrupt] e.before e.after := by
  have hr := e.restored
  refine ⟨hr.pc, hr.flags, ?_, ?_, hr.savedMask⟩
  · intro r his
    by_cases him : r = Reg.im
    · rw [him, e.reg_im h]
    · exact hr.reg r him his
  · intro k
    simp only [hr.is, BitVec.getLsbD_and, BitVec.getLsbD_not, Byte.getLsbD_bit, k.isLt,
      decide_true, Bool.true_and, List.mem_singleton, Fin.ext_iff, decide_not]

theorem lowest?_requests (e : Episode) : Byte.lowest? e.before.requests = some e.interrupt :=
  Machine.lowest?_requests_of_pending? e.dispatches

end Episode

namespace Chain

variable {m m' : Machine} {es : List Episode}

theorem served (h : Chain m es m') (hs : m.savedMask = none) :
    Machine.Served (es.map Episode.interrupt) m m' := by
  induction h with
  | nil m => exact .refl hs
  | cons e hret _ ih => exact (e.served hret).trans (ih e.restored.savedMask)

theorem requested (h : Chain m es m') {n : Fin 8} (hn : n ∈ es.map Episode.interrupt) :
    m.requests.getLsbD n = true := by
  induction h with
  | nil m => simp at hn
  | cons e hret _ ih =>
    rcases List.mem_cons.1 hn with rfl | hn
    · exact (Byte.lowest?_eq_some e.lowest?_requests).1
    · have hlater := ih hn
      rw [Machine.getLsbD_requests_of_served (e.served hret), Bool.and_eq_true] at hlater
      exact hlater.1

theorem pairwise_lt (h : Chain m es m') : (es.map Episode.interrupt).Pairwise (· < ·) := by
  induction h with
  | nil m => exact .nil
  | @cons e es m' hret hchain ih =>
    rw [List.map_cons, List.pairwise_cons]
    refine ⟨?_, ih⟩
    intro n hn
    -- What is served later was requested at the start, and is not the lowest request there.
    have hlater := hchain.requested hn
    rw [Machine.getLsbD_requests_of_served (e.served hret), Bool.and_eq_true] at hlater
    obtain ⟨hreq, hne⟩ := hlater
    have hlow := (Byte.lowest?_eq_some e.lowest?_requests).2 n
    refine Fin.not_le.1 fun hle => ?_
    rcases Fin.lt_or_eq_of_le hle with hlt | rfl
    · rw [hlow hlt] at hreq
      cases hreq
    · simp at hne

theorem length_le (h : Chain m es m') : es.length ≤ 8 := by
  have hnodup : (es.map Episode.interrupt).Nodup := h.pairwise_lt.imp Fin.ne_of_lt
  simpa using hnodup.length_le_card

/-- A chain after which no interrupt is pending has served all requests. -/
theorem interrupts_eq (h : Chain m es m') (hs : m.savedMask = none) (hend : m'.pending? = none) :
    es.map Episode.interrupt = (List.finRange 8).filter fun n : Fin 8 => m.requests.getLsbD n := by
  have hserved := h.served hs
  have hnone := Machine.requests_of_pending?_none hend hserved.savedMask
  apply h.pairwise_lt.eq_of_mem_iff ((List.pairwise_lt_finRange 8).filter _)
  intro n
  rw [List.mem_filter]
  constructor
  · intro hn
    exact ⟨List.mem_finRange n, h.requested hn⟩
  · rintro ⟨-, hreq⟩
    have hbit := Machine.getLsbD_requests_of_served hserved n
    rw [hnone, hreq] at hbit
    simpa using hbit

/-- A chain serves interrupts in rising order. When it cannot go on, it has served exactly the
requests at its start, and the interrupted instruction is the next; while it can, the next dispatch
goes through. -/
theorem serves_requests (h : Chain m es m') (hs : m.savedMask = none) (hpc : m.pc < 256)
    (hsp : 9 ≤ (m.reg Reg.sp).toNat) :
    (es.map Episode.interrupt).Pairwise (· < ·) ∧ es.length ≤ 8 ∧
      Machine.Served (es.map Episode.interrupt) m m' ∧
      (m'.pending? = none →
        es.map Episode.interrupt =
            (List.finRange 8).filter (fun n : Fin 8 => m.requests.getLsbD n) ∧
          ∀ tick, m'.cycle tick = (m'.poll tick).executeNext) ∧
      ∀ n tick, m'.pending? = some n →
        ∃ c : Cycle, c.before = m' ∧ c.tick = tick ∧ c.Dispatches n := by
  have hserved := h.served hs
  refine ⟨h.pairwise_lt, h.length_le, hserved, ?_, ?_⟩
  · intro hend
    refine ⟨h.interrupts_eq hs hend, ?_⟩
    intro tick
    rw [Machine.cycle, hend]
  · intro n tick hn
    apply Cycle.exists_of_pending hn
    · rwa [hserved.pc]
    · rwa [hserved.reg Reg.sp (by decide)]

end Chain

/-- Interrupts 0 and 1 are requested and let through. The handler of the second one opens the mask
before it returns. -/
def twofold : Machine :=
  (((Machine.fresh .unbounded).setReg Reg.im 3).setReg Reg.is 3).patch
    [(32, 0x13), (48, 0x82), (49, 5), (50, 255), (51, 0x13), (0xF8, 32), (0xF9, 48)]

def twofoldDispatch : Cycle := ⟨⟨twofold, false⟩, by decide +kernel⟩

def twofoldFirst : Episode where
  interrupt := Machine.timerInterrupt
  dispatch := twofoldDispatch
  handler := []
  exit := ⟨⟨twofoldDispatch.after, true⟩, by decide +kernel⟩
  dispatches := by decide +kernel
  handles := .nil _
  frame := by decide +kernel
  returns := by decide +kernel

def twofoldDispatchNext : Cycle := ⟨⟨twofoldFirst.after, false⟩, by decide +kernel⟩

def twofoldHandler : Cycle := ⟨⟨twofoldDispatchNext.after, true⟩, by decide +kernel⟩

def twofoldSecond : Episode where
  interrupt := ⟨1, by decide⟩
  dispatch := twofoldDispatchNext
  handler := [twofoldHandler]
  exit := ⟨⟨twofoldHandler.after, false⟩, by decide +kernel⟩
  dispatches := by decide +kernel
  handles := .single twofoldHandler
  frame := by decide +kernel
  returns := by decide +kernel

theorem twofold_chain : Chain twofold [twofoldFirst, twofoldSecond] twofoldSecond.after := by
  have hload : twofoldHandler.Executes (.ldi Reg.im 255) := by decide +kernel
  apply Chain.cons twofoldFirst (List.forall_mem_nil _)
  refine Chain.cons twofoldSecond ?_ (.nil _)
  intro c hc
  obtain rfl := List.mem_singleton.1 hc
  intro hret
  have hne : Instruction.ldi Reg.im 255 ≠ .iret := by decide +kernel
  exact hne (hload.inj hret)

theorem serves_requests_twofold :
    Chain twofold [twofoldFirst, twofoldSecond] twofoldSecond.after ∧
      twofold.savedMask = none ∧ twofold.pc < 256 ∧ 9 ≤ (twofold.reg Reg.sp).toNat ∧
      ([0, 1] : List (Fin 8)).Pairwise (· < ·) ∧
      Machine.Served [0, 1] twofold twofoldSecond.after :=
  have h := twofold_chain.serves_requests rfl (by decide +kernel) (by decide +kernel)
  ⟨twofold_chain, rfl, by decide +kernel, by decide +kernel, h.1, h.2.2.1⟩

end ByteMachine
