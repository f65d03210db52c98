import ByteMachine.Proofs.Fetch
import ByteMachine.Proofs.Request
import ByteMachine.Proofs.Steady
import Mathlib.Data.List.Forall2

/-! A timer whose ticks no interrupt answers. While interrupts are masked out, or one is being
handled, the ticks show in the status register only, so a program that keeps out of that register
runs the same under every timer. -/

namespace ByteMachine

namespace Machine

theorem requested_poll_iff {m : Machine} {n : Fin 8} (hn : n ≠ timerInterrupt) (tick : Bool) :
    (m.poll tick).Requested n ↔ m.Requested n := by
  cases tick with
  | false => exact Iff.rfl
  | true =>
    have hreq : (m.poll true).Requested n ↔ m.Requested n ∨ n = timerInterrupt :=
      requested_request m
    rw [hreq, or_iff_left hn]

/-- The machines agree on everything but whether the timer's interrupt is requested. -/
structure SameButTimer (m₁ m₂ : Machine) : Prop where
  pc : m₂.pc = m₁.pc
  flags : m₂.regs.flags = m₁.regs.flags
  reg : ∀ r, r ≠ Reg.is → m₂.reg r = m₁.reg r
  requested : ∀ n, n ≠ timerInterrupt → (m₂.Requested n ↔ m₁.Requested n)
  memory : m₂.memory = m₁.memory
  savedMask : m₂.savedMask = m₁.savedMask
  running : m₂.running = m₁.running
  sink : m₂.sink = m₁.sink

namespace SameButTimer

variable {m₁ m₂ : Machine}

theorem refl (m : Machine) : SameButTimer m m :=
  ⟨rfl, rfl, fun _ _ => rfl, fun _ _ => Iff.rfl, rfl, rfl, rfl, rfl⟩

theorem setReg (h : SameButTimer m₁ m₂) (r : Reg) (v : Byte) :
    SameButTimer (m₁.setReg r v) (m₂.setReg r v) where
  pc := h.pc
  flags := h.flags
  reg q hq := by rw [reg_setReg, reg_setReg, h.reg q hq]
  requested n hn := by
    have hold := h.requested n hn
    rw [Requested, Requested, reg_setReg, reg_setReg]
    split
    · exact Iff.rfl
    · exact hold
  memory := h.memory
  savedMask := h.savedMask
  running := h.running
  sink := h.sink

theorem goto (h : SameButTimer m₁ m₂) (pc : Nat) : SameButTimer (m₁.goto pc) (m₂.goto pc) :=
  ⟨rfl, h.flags, h.reg, h.requested, h.memory, h.savedMask, h.running, h.sink⟩

theorem setFlags (h : SameButTimer m₁ m₂) (f : Byte) :
    SameButTimer (m₁.setFlags f) (m₂.setFlags f) :=
  ⟨h.pc, rfl, h.reg, h.requested, h.memory, h.savedMask, h.running, h.sink⟩

theorem halt (h : SameButTimer m₁ m₂) : SameButTimer m₁.halt m₂.halt :=
  ⟨h.pc, h.flags, h.reg, h.requested, h.memory, h.savedMask, rfl, h.sink⟩

theorem withSink (h : SameButTimer m₁ m₂) (sink : Sink) :
    SameButTimer { m₁ with sink := sink } { m₂ with sink := sink } :=
  ⟨h.pc, h.flags, h.reg, h.requested, h.memory, h.savedMask, h.running, rfl⟩

theorem withoutMask (h : SameButTimer m₁ m₂) :
    SameButTimer { m₁ with savedMask := none } { m₂ with savedMask := none } :=
  ⟨h.pc, h.flags, h.reg, h.requested, h.memory, rfl, h.running, h.sink⟩

theorem store (h : SameButTimer m₁ m₂) (a v : Byte) :
    SameButTimer (m₁.store a v) (m₂.store a v) :=
  ⟨h.pc, h.flags, h.reg, h.requested, by rw [memory_store, memory_store, h.memory], h.savedMask,
    h.running, h.sink⟩

theorem request (h : SameButTimer m₁ m₂) (n : Fin 8) :
    SameButTimer (m₁.request n) (m₂.request n) where
  pc := h.pc
  flags := h.flags
  reg r hr := by
    rw [Machine.request, Machine.request, reg_setReg_of_ne _ _ hr, reg_setReg_of_ne _ _ hr,
      h.reg r hr]
  requested k hk := by
    rw [requested_request, requested_request, h.requested k hk]
  memory := h.memory
  savedMask := h.savedMask
  running := h.running
  sink := h.sink

theorem poll (h : SameButTimer m₁ m₂) (t₁ t₂ : Bool) :
    SameButTimer (m₁.poll t₁) (m₂.poll t₂) where
  pc := by rw [pc_poll, pc_poll, h.pc]
  flags := by rw [flags_poll, flags_poll, h.flags]
  reg r hr := by rw [reg_poll_of_ne _ _ hr, reg_poll_of_ne _ _ hr, h.reg r hr]
  requested n hn := by
    rw [requested_poll_iff hn, requested_poll_iff hn, h.requested n hn]
  memory := by rw [memory_poll, memory_poll, h.memory]
  savedMask := by rw [savedMask_poll, savedMask_poll, h.savedMask]
  running := by rw [running_poll, running_poll, h.running]
  sink := by rw [sink_poll, sink_poll, h.sink]

theorem reg_sp (h : SameButTimer m₁ m₂) : m₂.reg Reg.sp = m₁.reg Reg.sp :=
  h.reg Reg.sp (by decide)

theorem push (h : SameButTimer m₁ m₂) (v : Byte) :
    (∃ f, m₁.push v = .error f ∧ m₂.push v = .error f) ∨
      ∃ n₁ n₂, m₁.push v = .ok n₁ ∧ m₂.push v = .ok n₂ ∧ SameButTimer n₁ n₂ := by
  by_cases hsp : m₁.reg Reg.sp = 0
  · have hsp₂ : m₂.reg Reg.sp = 0 := h.reg_sp.trans hsp
    exact .inl ⟨.stackOverflow, if_pos hsp, if_pos hsp₂⟩
  · have hsp₂ : m₂.reg Reg.sp ≠ 0 := by rwa [h.reg_sp]
    refine .inr ⟨_, _, push_of_ne_zero v hsp, push_of_ne_zero v hsp₂, ?_⟩
    rw [h.reg_sp]
    exact (h.setReg _ _).store _ _

theorem pop (h : SameButTimer m₁ m₂) :
    (∃ f, m₁.pop = .error f ∧ m₂.pop = .error f) ∨
      ∃ v n₁ n₂, m₁.pop = .ok (v, n₁) ∧ m₂.pop = .ok (v, n₂) ∧ SameButTimer n₁ n₂ := by
  by_cases hsp : m₁.reg Reg.sp = 255
  · have hsp₂ : m₂.reg Reg.sp = 255 := h.reg_sp.trans hsp
    exact .inl ⟨.stackUnderflow, if_pos hsp, if_pos hsp₂⟩
  · have hsp₂ : m₂.reg Reg.sp ≠ 255 := by rwa [h.reg_sp]
    refine .inr ⟨_, _, _, pop_of_ne_last hsp, ?_, h.setReg Reg.sp (m₁.reg Reg.sp + 1)⟩
    rw [pop_of_ne_last hsp₂, h.reg_sp, h.memory]

theorem setSlot (h : SameButTimer m₁ m₂) (slot : Slot) (v : Byte) :
    SameButTimer { m₁ with regs := slot.set m₁.regs v } { m₂ with regs := slot.set m₂.regs v } := by
  cases slot with
  | pc => exact h.goto v.toNat
  | flags => exact h.setFlags v
  | reg r => exact h.setReg r v

theorem popAll (h : SameButTimer m₁ m₂) (slots : List Slot) :
    (m₂.popAll slots).2 = (m₁.popAll slots).2 ∧
      SameButTimer (m₁.popAll slots).1 (m₂.popAll slots).1 := by
  induction slots generalizing m₁ m₂ with
  | nil => exact ⟨rfl, h⟩
  | cons slot slots ih =>
    rcases h.pop with ⟨f, h₁, h₂⟩ | ⟨v, n₁, n₂, h₁, h₂, hn⟩
    · rw [Machine.popAll, Machine.popAll, h₁, h₂]
      exact ⟨rfl, h⟩
    · rw [Machine.popAll, Machine.popAll, h₁, h₂]
      exact ih (hn.setSlot slot v)

theorem operand (h : SameButTimer m₁ m₂) (k : Nat) : m₂.operand k = m₁.operand k := by
  rw [Machine.operand, Machine.operand, h.memory, h.pc]

theorem instruction (h : SameButTimer m₁ m₂) (op : Operation) :
    m₂.instruction op = m₁.instruction op := by
  have hreg (k : Nat) : m₂.operandReg k = m₁.operandReg k := operandReg_congr (h.operand k)
  rcases op with (op | op) | op
  · rw [Machine.instruction, Machine.instruction, hreg]
  · rw [Machine.instruction, Machine.instruction, hreg, hreg]
  · cases op <;> simp only [Machine.instruction, hreg, h.operand, h.flags]

theorem fetch (h : SameButTimer m₁ m₂) : m₂.fetch = m₁.fetch := by
  have hinstruction : m₂.instruction = m₁.instruction := funext h.instruction
  rw [Machine.fetch, Machine.fetch, h.operand, hinstruction]

end SameButTimer

end Machine

namespace Outcome

/-- The same fault, if any, and machines that differ in the timer's request at most. -/
structure SameButTimer (o₁ o₂ : Outcome) : Prop where
  fault : o₂.fault = o₁.fault
  machine : o₁.machine.SameButTimer o₂.machine

theorem SameButTimer.andThen {o₁ o₂ : Outcome} {next₁ next₂ : Machine → Outcome}
    (h : SameButTimer o₁ o₂)
    (hnext : ∀ m₁ m₂, m₁.SameButTimer m₂ → SameButTimer (next₁ m₁) (next₂ m₂)) :
    SameButTimer (o₁.andThen next₁) (o₂.andThen next₂) := by
  obtain ⟨m₁, f₁, events₁⟩ := o₁
  obtain ⟨m₂, f₂, events₂⟩ := o₂
  obtain ⟨hfault, hm⟩ := h
  obtain rfl : f₂ = f₁ := hfault
  cases f₂ with
  | some f => exact ⟨rfl, hm⟩
  | none => exact ⟨(hnext m₁ m₂ hm).fault, (hnext m₁ m₂ hm).machine⟩

end Outcome

namespace Machine.SameButTimer

variable {m₁ m₂ : Machine}

theorem done (h : SameButTimer m₁ m₂) :
    Outcome.SameButTimer (Outcome.done m₁) (Outcome.done m₂) :=
  ⟨rfl, h⟩

theorem stopped (h : SameButTimer m₁ m₂) (f : Fault) :
    Outcome.SameButTimer (Outcome.stopped m₁ f) (Outcome.stopped m₂ f) :=
  ⟨rfl, h⟩

theorem print (h : SameButTimer m₁ m₂) (text : List Char) :
    Outcome.SameButTimer (m₁.print text) (m₂.print text) := by
  rw [Machine.print, Machine.print, h.sink]
  cases m₁.sink.write (Text.utf8 text) with
  | mk sink cause? =>
    cases cause? with
    | none => exact (h.withSink sink).done
    | some cause => exact (h.withSink sink).stopped _

theorem flush (h : SameButTimer m₁ m₂) : Outcome.SameButTimer m₁.flush m₂.flush := by
  rw [Machine.flush, Machine.flush, h.sink]
  cases m₁.sink.flush with
  | mk sink cause? =>
    cases cause? with
    | none => exact (h.withSink sink).done
    | some cause => exact (h.withSink sink).stopped _

theorem pushThen (h : SameButTimer m₁ m₂) (v : Byte) {next₁ next₂ : Machine → Outcome}
    (hnext : ∀ n₁ n₂, SameButTimer n₁ n₂ → Outcome.SameButTimer (next₁ n₁) (next₂ n₂)) :
    Outcome.SameButTimer
      (match m₁.push v with
        | .ok n => next₁ n
        | .error f => .stopped m₁ f)
      (match m₂.push v with
        | .ok n => next₂ n
        | .error f => .stopped m₂ f) := by
  rcases h.push v with ⟨f, h₁, h₂⟩ | ⟨n₁, n₂, h₁, h₂, hn⟩
  · rw [h₁, h₂]
    exact h.stopped f
  · rw [h₁, h₂]
    exact hnext n₁ n₂ hn

theorem popThen (h : SameButTimer m₁ m₂) {next₁ next₂ : Byte → Machine → Outcome}
    (hnext : ∀ v n₁ n₂, SameButTimer n₁ n₂ → Outcome.SameButTimer (next₁ v n₁) (next₂ v n₂)) :
    Outcome.SameButTimer
      (match m₁.pop with
        | .ok (v, n) => next₁ v n
        | .error f => .stopped m₁ f)
      (match m₂.pop with
        | .ok (v, n) => next₂ v n
        | .error f => .stopped m₂ f) := by
  rcases h.pop with ⟨f, h₁, h₂⟩ | ⟨v, n₁, n₂, h₁, h₂, hn⟩
  · rw [h₁, h₂]
    exact h.stopped f
  · rw [h₁, h₂]
    exact hnext v n₁ n₂ hn

/-- A return takes the status register from the stack, so that it forgets what the timer left in
it. -/
theorem interruptReturn (h : SameButTimer m₁ m₂) :
    Outcome.SameButTimer m₁.interruptReturn m₂.interruptReturn := by
  have hpop := h.popAll Slot.frame.reverse
  rw [Machine.interruptReturn, Machine.interruptReturn]
  revert hpop
  rcases m₁.popAll Slot.frame.reverse with ⟨n₁, f₁⟩
  rcases m₂.popAll Slot.frame.reverse with ⟨n₂, f₂⟩
  rintro ⟨hfault, hn⟩
  obtain rfl : f₂ = f₁ := hfault
  cases f₂ with
  | some f => exact hn.stopped f
  | none =>
    dsimp only
    rw [hn.savedMask]
    cases n₁.savedMask with
    | none => exact ⟨rfl, hn⟩
    | some mask => exact ⟨rfl, hn.withoutMask.setReg Reg.im mask⟩

theorem act (h : SameButTimer m₁ m₂) {i : Instruction} (hi : Reg.is ∉ i.named) :
    Outcome.SameButTimer (m₁.act i) (m₂.act i) := by
  have hreg {r : Reg} (hr : r ∈ i.named) : m₂.reg r = m₁.reg r :=
    h.reg r fun e => hi (e ▸ hr)
  cases i with
  | unary op a =>
    have ha : m₂.reg a = m₁.reg a := hreg List.mem_cons_self
    rw [Machine.act, Machine.act, ha]
    exact (h.setReg a _).done
  | binary op a b =>
    have ha : m₂.reg a = m₁.reg a := hreg List.mem_cons_self
    have hb : m₂.reg b = m₁.reg b := hreg (List.mem_cons_of_mem a List.mem_cons_self)
    rw [Machine.act, Machine.act, ha, hb]
    cases op.apply (m₁.reg a) (m₁.reg b) with
    | error f => exact h.stopped f
    | ok result =>
      cases result with
      | value v => exact (h.setReg a v).done
      | flags f => exact (h.setFlags f).done
  | nop => exact h.done
  | hlt => exact ⟨rfl, h.halt⟩
  | ldi a v => exact (h.setReg a v).done
  | ld a b =>
    have hb : m₂.reg b = m₁.reg b := hreg (List.mem_cons_of_mem a List.mem_cons_self)
    rw [Machine.act, Machine.act, hb, h.memory]
    exact (h.setReg a _).done
  | st a b =>
    have ha : m₂.reg a = m₁.reg a := hreg List.mem_cons_self
    have hb : m₂.reg b = m₁.reg b := hreg (List.mem_cons_of_mem a List.mem_cons_self)
    rw [Machine.act, Machine.act, ha, hb]
    exact (h.store _ _).done
  | push a =>
    have ha : m₂.reg a = m₁.reg a := hreg List.mem_cons_self
    rw [Machine.act, Machine.act, ha]
    exact h.pushThen _ fun _ _ hn => hn.done
  | pop a => exact h.popThen fun v _ _ hn => (hn.setReg a v).done
  | prn a =>
    have ha : m₂.reg a = m₁.reg a := hreg List.mem_cons_self
    rw [Machine.act, Machine.act, ha]
    exact h.print _
  | pra a =>
    have ha : m₂.reg a = m₁.reg a := hreg List.mem_cons_self
    rw [Machine.act, Machine.act, ha]
    exact (h.print _).andThen fun _ _ hn => hn.flush
  | call a =>
    have ha : m₂.reg a = m₁.reg a := hreg List.mem_cons_self
    rw [Machine.act, Machine.act, ha, h.pc]
    split
    · exact h.pushThen _ fun _ _ hn => (hn.goto _).done
    · exact h.stopped _
  | ret => exact h.popThen fun v _ _ hn => (hn.goto v.toNat).done
  | int a =>
    have ha : m₂.reg a = m₁.reg a := hreg List.mem_cons_self
    simp only [Machine.act, ha, h.pc]
    split
    · next hn => exact ((h.request ⟨_, hn⟩).goto _).done
    · exact h.stopped _
  | iret => exact h.interruptReturn
  | jump c a =>
    have ha : m₂.reg a = m₁.reg a := hreg List.mem_cons_self
    rw [Machine.act, Machine.act, ha]
    exact (h.goto _).done
  | skip c =>
    rw [Machine.act, Machine.act, h.pc]
    exact (h.goto _).done

theorem goBehind (h : SameButTimer m₁ m₂) (i : Instruction) :
    SameButTimer (m₁.goBehind i) (m₂.goBehind i) := by
  rw [Machine.goBehind, Machine.goBehind, h.pc]
  split
  · exact h
  · exact h.goto _

/-- An instruction that does not name the status register cannot tell the machines apart. -/
theorem execute (h : SameButTimer m₁ m₂) {i : Instruction} (hi : Reg.is ∉ i.named) :
    Outcome.SameButTimer (m₁.execute i) (m₂.execute i) :=
  (h.act hi).andThen fun _ _ hn => (hn.goBehind i).done

end Machine.SameButTimer

namespace Machine

/-- No interrupt can be dispatched: all are masked out, or one is being handled. -/
def Masked (m : Machine) : Prop := m.reg Reg.im = 0 ∨ m.savedMask.isSome

instance (m : Machine) : Decidable m.Masked := inferInstanceAs (Decidable (_ ∨ _))

theorem Masked.pending? {m : Machine} (h : m.Masked) : m.pending? = none := by
  rcases h with him | hsaved
  · cases hm : m.savedMask with
    | none => simp [Machine.pending?, hm, him, Byte.lowest?_eq_none_iff]
    | some mask => exact pending?_of_some hm
  · obtain ⟨mask, hm⟩ := Option.isSome_iff_exists.1 hsaved
    exact pending?_of_some hm

variable {m₁ m₂ : Machine}

theorem SameButTimer.masked (h : m₁.SameButTimer m₂) (hm : m₁.Masked) : m₂.Masked := by
  rwa [Masked, h.reg Reg.im (by decide), h.savedMask]

theorem SameButTimer.step (h : m₁.SameButTimer m₂) (hm : m₁.Masked) {t₁ : Bool}
    (hi : ∀ i, (m₁.poll t₁).fetch = .ok i → Reg.is ∉ i.named) (t₂ : Bool) :
    Outcome.SameButTimer (m₁.step t₁) (m₂.step t₂) := by
  have hpoll := h.poll t₁ t₂
  have hcycle : Outcome.SameButTimer (m₁.cycle t₁) (m₂.cycle t₂) := by
    rw [cycle, cycle, hm.pending?, (h.masked hm).pending?]
    show Outcome.SameButTimer (m₁.poll t₁).executeNext (m₂.poll t₂).executeNext
    rw [executeNext, executeNext, hpoll.fetch]
    cases hf : (m₁.poll t₁).fetch with
    | error f => exact ⟨rfl, hpoll⟩
    | ok i => exact ⟨(hpoll.execute (hi i hf)).fault, (hpoll.execute (hi i hf)).machine⟩
  rw [Machine.step, Machine.step, hcycle.fault]
  cases (m₁.cycle t₁).fault with
  | none => exact hcycle
  | some f => exact ⟨rfl, hcycle.machine.halt⟩

end Machine

namespace Attempt

/-- The step of one machine follows that of another: it executes the same instruction, comes to the
same and leaves machines that differ in the timer's request at most. -/
structure FollowedBy (a b : Attempt) : Prop where
  executes : ∀ i, b.Executes i ↔ a.Executes i
  fault : b.fault = a.fault
  after : a.after.SameButTimer b.after

/-- The step leaves the status register to the timer. -/
def AvoidsStatus (a : Attempt) : Prop := ∀ i, a.Executes i → Reg.is ∉ i.named

instance (a : Attempt) : Decidable a.AvoidsStatus :=
  match h : a.polled.fetch with
  | .ok j =>
    decidable_of_iff (a.before.pending? = none → Reg.is ∉ j.named) (by
      simp [AvoidsStatus, Executes, h])
  | .error _ => .isTrue fun _ he => nomatch h.symm.trans he.2

theorem followedBy {a b : Attempt} (h : a.before.SameButTimer b.before)
    (hm : a.before.Masked) (hi : a.AvoidsStatus) : a.FollowedBy b := by
  have hfetch : b.polled.fetch = a.polled.fetch := (h.poll a.tick b.tick).fetch
  have hstep := h.step hm (fun i hf => hi i ⟨hm.pending?, hf⟩) b.tick
  refine ⟨?_, hstep.fault, hstep.machine⟩
  intro i
  rw [Executes, Executes, hfetch, hm.pending?, (h.masked hm).pending?]

end Attempt

namespace Machine

/-- As long as interrupts stay masked and no instruction names the status register, machines that
differ in the timer's request at most do the same under any two timers. -/
theorem attempts_followedBy {m₁ m₂ : Machine} {ticks₁ ticks₂ : List Bool}
    (h : m₁.SameButTimer m₂) (hlength : ticks₂.length = ticks₁.length)
    (hmasked : ∀ a ∈ m₁.attempts ticks₁, a.before.Masked)
    (hstatus : ∀ a ∈ m₁.attempts ticks₁, a.AvoidsStatus) :
    List.Forall₂ Attempt.FollowedBy (m₁.attempts ticks₁) (m₂.attempts ticks₂) := by
  induction ticks₁ generalizing m₁ m₂ ticks₂ with
  | nil =>
    obtain rfl := List.length_eq_zero_iff.1 hlength
    exact .nil
  | cons t₁ ticks₁ ih =>
    obtain ⟨t₂, ticks₂, rfl⟩ := List.exists_cons_of_length_eq_add_one hlength
    rw [attempts, List.forall_mem_cons] at hmasked hstatus
    have hfirst : (⟨m₁, t₁⟩ : Attempt).FollowedBy ⟨m₂, t₂⟩ :=
      Attempt.followedBy h hmasked.1 hstatus.1
    exact .cons hfirst (ih hfirst.after (Nat.succ.inj hlength) hmasked.2 hstatus.2)

end Machine

/-- The busy system's machine at the start of its first handler. -/
def sheltered : Machine := busy.machine.stepped true 2

theorem attempts_followedBy_sheltered :
    sheltered.SameButTimer (sheltered.poll true) ∧ ¬sheltered.Requested 0 ∧
      (sheltered.poll true).Requested 0 ∧
      (∀ a ∈ sheltered.attempts [true, false], a.before.Masked) ∧
      (∀ a ∈ sheltered.attempts [true, false], a.AvoidsStatus) ∧
      List.Forall₂ Attempt.FollowedBy (sheltered.attempts [true, false])
        ((sheltered.poll true).attempts [false, true]) :=
  have hsame : sheltered.SameButTimer (sheltered.poll true) :=
    (Machine.SameButTimer.refl sheltered).poll false true
  have hmasked : ∀ a ∈ sheltered.attempts [true, false], a.before.Masked := by decide +kernel
  have hstatus : ∀ a ∈ sheltered.attempts [true, false], a.AvoidsStatus := by decide +kernel
  ⟨hsame, by decide +kernel, by decide +kernel, hmasked, hstatus,
    Machine.attempts_followedBy hsame rfl hmasked hstatus⟩

end ByteMachine
