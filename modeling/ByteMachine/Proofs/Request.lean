import ByteMachine.Machine.Load
import ByteMachine.Proofs.Episode

/-! How long a request for an interrupt stays. Nothing withdraws it but the dispatch of the interrupt,
an instruction with the status register for its result and a return, which takes the whole register
from the stack. -/

namespace ByteMachine

namespace Machine

def Requested (m : Machine) (n : Fin 8) : Prop := (m.reg Reg.is).getLsbD n = true

instance (m : Machine) (n : Fin 8) : Decidable (m.Requested n) :=
  inferInstanceAs (Decidable (_ = _))

theorem requested_request (m : Machine) {n k : Fin 8} :
    (m.request n).Requested k ↔ m.Requested k ∨ k = n := by
  simp only [Requested, request, reg_setReg_self, BitVec.getLsbD_or, Byte.getLsbD_bit,
    Bool.or_eq_true, decide_eq_true_eq, Fin.ext_iff]

theorem requested_poll {m : Machine} {n : Fin 8} (h : m.Requested n) (tick : Bool) :
    (m.poll tick).Requested n := by
  cases tick with
  | false => exact h
  | true => exact (requested_request m).2 (.inl h)

theorem Popped.reg_is {m m' : Machine} (h : Popped m Slot.frame.reverse m') :
    m'.reg Reg.is = m.memory.load (m.reg Reg.sp) :=
  (List.cons.inj h.values).1

end Machine

theorem Effect.reg_is_of_iret {m m' : Machine} (h : Effect m .iret m') :
    m'.reg Reg.is = m.memory.load (m.reg Reg.sp) := by
  obtain ⟨m₁, hp, rfl⟩ := h.exists_popped
  rw [Machine.reg_unmask_of_ne m₁ (by decide), hp.reg_is]

namespace Effect

variable {m m' : Machine} {i : Instruction} {n : Fin 8}

theorem requested_of_int {a : Reg} (h : Effect m (.int a) m') (hn : (m.reg a).toNat = n) :
    m'.Requested n := by
  cases h with
  | @int a k hk =>
    have hkn : n = k := Fin.ext (hn.symm.trans hk)
    exact (Machine.requested_request m).2 (.inr hkn)

theorem requested (h : Effect m i m') (hd : i.dest? ≠ some Reg.is) (hret : i ≠ .iret)
    (hm : m.Requested n) : m'.Requested n := by
  by_cases hint : ∃ a, i = .int a
  · obtain ⟨a, rfl⟩ := hint
    cases h with
    | int k hk => exact (Machine.requested_request m).2 (.inl hm)
  · have hkept := h.reg_of_ne hd hret (fun e => absurd e (by decide))
      (fun _ a ha => hint ⟨a, ha⟩)
    rwa [Machine.Requested, hkept]

end Effect

namespace Cycle

/-- The cycle requests interrupt `n`: the timer ticks, or an instruction asks for the interrupt. -/
def Requests (c : Cycle) (n : Fin 8) : Prop :=
  c.before.pending? = none ∧ c.tick = true ∧ n = Machine.timerInterrupt ∨
    ∃ a, c.Executes (.int a) ∧ (c.polled.reg a).toNat = n

/-- The cycle takes the request for interrupt `n` away: it dispatches the interrupt, it executes an
instruction whose result goes to the status register, or it returns to a frame in which the
interrupt is not requested. -/
def Withdraws (c : Cycle) (n : Fin 8) : Prop :=
  c.Dispatches n ∨ (∃ i, c.Executes i ∧ i.dest? = some Reg.is) ∨
    c.Executes .iret ∧ (c.before.memory.load (c.before.reg Reg.sp)).getLsbD n = false

variable {c : Cycle} {n : Fin 8} {i : Instruction}

theorem not_withdraws_of_executes (hi : c.Executes i) (hd : i.dest? ≠ some Reg.is)
    (hret : i ≠ .iret) : ¬c.Withdraws n := by
  rintro (hdisp | ⟨j, hj, hdest⟩ | ⟨hj, -⟩)
  · exact hi.ne_dispatches hdisp
  · rw [hi.inj hj] at hd
    exact hd hdest
  · exact hret (hi.inj hj)

/-- An instruction withdraws no request that it finds, unless its cycle does. -/
theorem requested_of_executes (hi : c.Executes i) (h : c.polled.Requested n)
    (hw : ¬c.Withdraws n) : c.after.Requested n := by
  by_cases hret : i = .iret
  · subst hret
    have hpop := (hi.effect c.succeeds).reg_is_of_iret
    rw [c.memory_polled, c.reg_polled_of_ne (by decide)] at hpop
    rw [Machine.Requested, hpop]
    cases hbit : (c.before.memory.load (c.before.reg Reg.sp)).getLsbD n with
    | true => rfl
    | false => exact absurd (.inr (.inr ⟨hi, hbit⟩)) hw
  · have hdest : i.dest? ≠ some Reg.is := fun hd => hw (.inr (.inl ⟨i, hi, hd⟩))
    exact (hi.effect c.succeeds).requested hdest hret h

theorem requested_after (h : c.before.Requested n) (hw : ¬c.Withdraws n) :
    c.after.Requested n := by
  rcases c.dispatches_or_executes with ⟨k, hk⟩ | ⟨i, hi⟩
  · have hne : n ≠ k := by
      rintro rfl
      exact hw (.inl hk)
    rw [Machine.Requested, (hk.dispatched c.succeeds).is, BitVec.getLsbD_and, BitVec.getLsbD_not,
      Byte.getLsbD_bit, h]
    simp [Fin.val_ne_of_ne hne]
  · exact requested_of_executes hi (Machine.requested_poll h c.tick) hw

/-- A cycle that requests an interrupt and does not itself withdraw the request leaves it. -/
theorem requested_of_requests (h : c.Requests n) (hw : ¬c.Withdraws n) : c.after.Requested n := by
  rcases h with ⟨hnone, htick, rfl⟩ | ⟨a, ha, hn⟩
  · obtain ⟨i, hi⟩ := c.dispatches_or_executes.resolve_left fun ⟨k, hk⟩ => by
      cases hnone.symm.trans hk
    apply requested_of_executes hi _ hw
    rw [Attempt.polled, htick]
    exact (Machine.requested_request _).2 (.inr rfl)
  · exact (ha.effect c.succeeds).requested_of_int hn

end Cycle

theorem Reaches.requested {m m' : Machine} {cs : List Cycle} {n : Fin 8} (h : Reaches m cs m')
    (hm : m.Requested n) (hw : ∀ c ∈ cs, ¬c.Withdraws n) : m'.Requested n := by
  induction h with
  | nil => exact hm
  | cons c _ ih =>
    rw [List.forall_mem_cons] at hw
    exact ih (Cycle.requested_after hm hw.1) hw.2

/-- After an episode exactly those interrupts are requested that were before it, less the one that
it served. What the handler requested is gone. -/
theorem Episode.requested_after (e : Episode) (n : Fin 8) :
    e.after.Requested n ↔ e.before.Requested n ∧ n ≠ e.interrupt := by
  rw [Machine.Requested, Machine.Requested, e.restored.is, BitVec.getLsbD_and, BitVec.getLsbD_not,
    Byte.getLsbD_bit]
  simp [Fin.ext_iff]

/-- A request stays until it is withdrawn. A handler's return withdraws all requests but those from
before its dispatch. -/
theorem requested_until_withdrawn :
    (∀ (c : Cycle) (cs : List Cycle) (m' : Machine) (n : Fin 8), c.Requests n →
      Reaches c.after cs m' → (∀ d ∈ c :: cs, ¬d.Withdraws n) → m'.Requested n) ∧
    ∀ (e : Episode) (n : Fin 8),
      e.after.Requested n ↔ e.before.Requested n ∧ n ≠ e.interrupt := by
  refine ⟨?_, Episode.requested_after⟩
  intro c cs m' n hreq hreach hw
  rw [List.forall_mem_cons] at hw
  exact hreach.requested (Cycle.requested_of_requests hreq hw.1) hw.2

/-- Opens the mask for interrupt 0, requests interrupt 1 and returns. The program is its own handler
for interrupt 0. -/
def lossy : List Byte := [0x82, 5, 1, 0x52, 5, 0x13]

/-- The timer ticks in this cycle and in all later ones. -/
def lossyStart : Cycle := ⟨⟨((Machine.fresh .unbounded).load lossy).machine, true⟩, by decide +kernel⟩

def lossyDispatch : Cycle := ⟨⟨lossyStart.after, true⟩, by decide +kernel⟩

def lossyLoad : Cycle := ⟨⟨lossyDispatch.after, true⟩, by decide +kernel⟩

def lossyRequest : Cycle := ⟨⟨lossyLoad.after, true⟩, by decide +kernel⟩

def lossyReturn : Cycle := ⟨⟨lossyRequest.after, true⟩, by decide +kernel⟩

theorem lossyLoad_executes : lossyLoad.Executes (.ldi Reg.im 1) := by decide +kernel

theorem lossyRequest_executes : lossyRequest.Executes (.int Reg.im) := by decide +kernel

theorem lossyReturn_executes : lossyReturn.Executes .iret := by decide +kernel

def lossyEpisode : Episode where
  interrupt := Machine.timerInterrupt
  dispatch := lossyDispatch
  handler := [lossyLoad, lossyRequest]
  exit := lossyReturn
  dispatches := by decide +kernel
  handles := .cons lossyLoad (.single lossyRequest)
  frame := by decide +kernel
  returns := lossyReturn_executes

theorem lossyLoad_requests : lossyLoad.Requests 0 :=
  .inl ⟨lossyLoad_executes.1, rfl, rfl⟩

theorem lossyRequest_requests : lossyRequest.Requests 1 :=
  .inr ⟨Reg.im, lossyRequest_executes, by decide +kernel⟩

theorem lossyLoad_lossyRequest_keep : ∀ c ∈ [lossyLoad, lossyRequest], ¬c.Withdraws 0 := by
  refine List.forall_mem_cons.2 ⟨?_, List.forall_mem_cons.2 ⟨?_, List.forall_mem_nil _⟩⟩
  · exact Cycle.not_withdraws_of_executes lossyLoad_executes (by decide) (by decide +kernel)
  · exact Cycle.not_withdraws_of_executes lossyRequest_executes (by decide) (by decide +kernel)

theorem requested_until_withdrawn_lossy :
    lossyLoad.Requests 0 ∧ (∀ c ∈ [lossyLoad, lossyRequest], ¬c.Withdraws 0) ∧
      lossyRequest.after.Requested 0 ∧ ¬lossyEpisode.after.Requested 0 := by
  have hkept := requested_until_withdrawn.1 lossyLoad [lossyRequest] _ 0 lossyLoad_requests
    (.single lossyRequest) lossyLoad_lossyRequest_keep
  have hlost : ¬lossyEpisode.after.Requested 0 := by
    intro h
    exact ((requested_until_withdrawn.2 lossyEpisode 0).1 h).2 rfl
  exact ⟨lossyLoad_requests, lossyLoad_lossyRequest_keep, hkept, hlost⟩

theorem lossyStart_reaches :
    Reaches ((Machine.fresh .unbounded).load lossy).machine [lossyStart, lossyDispatch, lossyLoad]
      lossyRequest.before :=
  .cons lossyStart (.cons lossyDispatch (.single lossyLoad))

/-- A request that a handler makes is lost when the handler returns, though neither a dispatch nor a
result took it away. -/
theorem not_requested_until_dispatched :
    ¬∀ (program : List Byte) (cs : List Cycle) (c : Cycle) (ds : List Cycle) (m' : Machine)
      (n : Fin 8), Reaches ((Machine.fresh .unbounded).load program).machine cs c.before →
        c.Requests n → Reaches c.after ds m' →
        (∀ d ∈ c :: ds, ¬d.Dispatches n ∧ ∀ i, d.Executes i → i.dest? ≠ some Reg.is) →
        m'.Requested n := by
  intro h
  have hkept : ∀ d ∈ [lossyRequest, lossyReturn],
      ¬d.Dispatches 1 ∧ ∀ i, d.Executes i → i.dest? ≠ some Reg.is := by
    refine List.forall_mem_cons.2 ⟨⟨lossyRequest_executes.ne_dispatches, ?_⟩,
      List.forall_mem_cons.2 ⟨⟨lossyReturn_executes.ne_dispatches, ?_⟩, List.forall_mem_nil _⟩⟩
    · intro i hi
      rw [← lossyRequest_executes.inj hi]
      decide
    · intro i hi
      rw [← lossyReturn_executes.inj hi]
      decide
  have hend := h lossy _ lossyRequest [lossyReturn] lossyReturn.after 1 lossyStart_reaches
    lossyRequest_requests (.single lossyReturn) hkept
  revert hend
  decide +kernel

end ByteMachine
