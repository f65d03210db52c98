import ByteMachine.Proofs.Alike
import Mathlib.Data.List.Forall2

/-! Interrupts are invisible to the program they interrupt. The machine on which they are masked out
executes the same instructions, and after each of them looks alike to the program. -/

namespace ByteMachine

/-- The instruction keeps out of the interrupt registers and of the scratch area from `z` upwards,
and moves the stack pointer only by pushing and popping. -/
structure Secluded (z : Nat) (m : Machine) (i : Instruction) : Prop where
  ne_iret : i ≠ .iret
  named : ∀ r ∈ i.named, r ≠ Reg.im ∧ r ≠ Reg.is
  dest : i.dest? ≠ some Reg.sp
  reads : ∀ a ∈ m.reads i, ¬m.Scratch z a

namespace Secluded

variable {z : Nat} {m₁ m₂ : Machine} {i : Instruction}

theorem reg_eq (hi : Secluded z m₁ i) (h : Machine.Alike z m₁ m₂) {r : Reg} (hr : r ∈ i.named) :
    m₂.reg r = m₁.reg r :=
  h.reg r (hi.named r hr).1 (hi.named r hr).2

theorem fetch (hi : Secluded z m₁ i) (h : Machine.Alike z m₁ m₂) (hf : m₁.fetch = .ok i) :
    m₂.fetch = .ok i := by
  apply Machine.fetch_congr hf h.flags
  intro k hk
  rw [Machine.operand, Machine.operand, h.pc]
  apply h.read
  apply hi.reads
  exact List.mem_append_left _ (List.mem_map_of_mem (List.mem_range.2 hk))

/-- What the instruction does on one machine it does on a machine that looks alike. -/
theorem effect (hi : Secluded z m₁ i) (h : Machine.Alike z m₁ m₂)
    (hs : m₁.sink.Roomier m₂.sink) {m₁' : Machine} (he : Effect m₁ i m₁') :
    ∃ m₂', Effect m₂ i m₂' ∧ Machine.Alike z m₁' m₂' ∧ m₁'.sink.Roomier m₂'.sink := by
  have hreg {r : Reg} (hr : r ∈ i.named) := hi.reg_eq h hr
  have hsp := h.reg_sp
  have hdest {r : Reg} (hd : i.dest? = some r) : r ≠ Reg.sp := by
    rintro rfl
    exact hi.dest hd
  cases he with
  | unary op a =>
    have ha : m₂.reg a = m₁.reg a := hreg List.mem_cons_self
    refine ⟨_, .unary op a, ?_, hs⟩
    rw [ha, h.pc]
    exact (h.setReg (hdest rfl) _).goto _
  | @value op a b v hv =>
    have ha : m₂.reg a = m₁.reg a := hreg List.mem_cons_self
    have hb : m₂.reg b = m₁.reg b := hreg (List.mem_cons_of_mem a List.mem_cons_self)
    refine ⟨_, .value (by rwa [ha, hb]), ?_, hs⟩
    rw [h.pc]
    exact (h.setReg (hdest (if_neg (BinaryOp.ne_cmp_of_value hv))) _).goto _
  | @flags op a b f hv =>
    have ha : m₂.reg a = m₁.reg a := hreg List.mem_cons_self
    have hb : m₂.reg b = m₁.reg b := hreg (List.mem_cons_of_mem a List.mem_cons_self)
    refine ⟨_, .flags (f := f) (by rwa [ha, hb]), ?_, hs⟩
    rw [h.pc]
    exact (h.setFlags f).goto _
  | nop => exact ⟨_, .nop, h.pc ▸ h.goto _, hs⟩
  | hlt => exact ⟨_, .hlt, h.pc ▸ h.halt.goto _, hs⟩
  | ldi a v => exact ⟨_, .ldi a v, h.pc ▸ (h.setReg (hdest rfl) v).goto _, hs⟩
  | ld a b =>
    have hb : m₂.reg b = m₁.reg b := hreg (List.mem_cons_of_mem a List.mem_cons_self)
    have hload : ¬m₁.Scratch z (m₁.reg b).toNat := hi.reads _ (by simp [Machine.reads])
    refine ⟨_, .ld a b, ?_, hs⟩
    rw [hb, h.load _ hload, h.pc]
    exact (h.setReg (hdest rfl) _).goto _
  | st a b =>
    have ha : m₂.reg a = m₁.reg a := hreg List.mem_cons_self
    have hb : m₂.reg b = m₁.reg b := hreg (List.mem_cons_of_mem a List.mem_cons_self)
    refine ⟨_, .st a b, ?_, hs⟩
    rw [ha, hb, h.pc]
    exact (h.store _ _).goto _
  | push a h0 =>
    have ha : m₂.reg a = m₁.reg a := hreg List.mem_cons_self
    refine ⟨_, .push a (by rwa [hsp]), ?_, hs⟩
    rw [ha, hsp, h.pc]
    exact (h.push _).goto _
  | pop a hlast =>
    refine ⟨_, .pop a (by rwa [hsp]), ?_, hs⟩
    rw [hsp, h.load_sp, h.pc]
    exact ((h.pop hlast).setReg (hdest rfl) _).goto _
  | @prn a sink hw =>
    have ha : m₂.reg a = m₁.reg a := hreg List.mem_cons_self
    obtain ⟨sink', hw', hr⟩ := hs.write hw
    exact ⟨_, .prn (by rwa [ha]), h.pc ▸ (h.withSink sink sink').goto _, hr⟩
  | @pra a sink hw hf =>
    have ha : m₂.reg a = m₁.reg a := hreg List.mem_cons_self
    obtain ⟨sink', hw', hr⟩ := hs.write hw
    exact ⟨_, .pra (by rwa [ha]) (hr.flushable ▸ hf), h.pc ▸ (h.withSink _ _).goto _, hr.flush⟩
  | call a hpc h0 =>
    have ha : m₂.reg a = m₁.reg a := hreg List.mem_cons_self
    refine ⟨_, .call a (by rwa [h.pc]) (by rwa [hsp]), ?_, hs⟩
    rw [ha, hsp, h.pc]
    exact (h.push _).goto _
  | ret hlast =>
    refine ⟨_, .ret (by rwa [hsp]), ?_, hs⟩
    rw [hsp, h.load_sp]
    exact (h.pop hlast).goto _
  | @int a n hn =>
    have ha : m₂.reg a = m₁.reg a := hreg List.mem_cons_self
    exact ⟨_, .int n (by rwa [ha]), h.pc ▸ (h.request n n).goto _, hs⟩
  | iret => exact absurd rfl hi.ne_iret
  | jump c a =>
    have ha : m₂.reg a = m₁.reg a := hreg List.mem_cons_self
    refine ⟨_, .jump c a, ?_, hs⟩
    rw [ha]
    exact h.goto _
  | skip c => exact ⟨_, .skip c, h.pc ▸ h.goto _, hs⟩

end Secluded

/-- Running a cycle uses up room in the sink. -/
theorem Effect.sink_roomier {m m' : Machine} {i : Instruction} (h : Effect m i m') :
    m'.sink.Roomier m.sink := by
  cases h with
  | @prn a sink hw =>
    have hr := Sink.Roomier.of_write m.sink (Text.utf8 (Machine.numberText (m.reg a)))
    rwa [hw] at hr
  | @pra a sink hw hf =>
    have hr := Sink.Roomier.of_write m.sink (Text.utf8 (Machine.characterText (m.reg a)))
    rw [hw] at hr
    exact (Sink.Roomier.of_flush _).trans hr
  | iret hp =>
    obtain ⟨m₁, hm, he⟩ := exists_popped (.iret hp)
    rw [he, Machine.sink_unmask, hm.sink]
    exact .refl _
  | _ => exact .refl _

theorem Cycle.sink_roomier (c : Cycle) : c.after.sink.Roomier c.before.sink := by
  rcases c.dispatches_or_executes with ⟨n, h⟩ | ⟨i, h⟩
  · rw [(h.dispatched c.succeeds).sink]
    exact .refl _
  · have hr := (h.effect c.succeeds).sink_roomier
    rwa [c.sink_polled] at hr

theorem Reaches.sink_roomier {m m' : Machine} {cs : List Cycle} (h : Reaches m cs m') :
    m'.sink.Roomier m.sink := by
  induction h with
  | nil => exact .refl _
  | cons c _ ih => exact ih.trans c.sink_roomier

/-- The machine `m₂` follows `m₁` with all interrupts masked out. -/
structure Shadows (z : Nat) (m₁ m₂ : Machine) : Prop where
  alike : Machine.Alike z m₁ m₂
  masked : m₂.reg Reg.im = 0
  roomier : m₁.sink.Roomier m₂.sink

namespace Shadows

variable {z : Nat} {m₁ m₂ : Machine}

theorem setMask (m : Machine) (z : Nat) : Shadows z m (m.setReg Reg.im 0) :=
  ⟨.setMask m z 0, m.reg_setReg_self Reg.im 0, .refl _⟩

theorem pending? (h : Shadows z m₁ m₂) : m₂.pending? = none := by
  unfold Machine.pending?
  split
  · rfl
  · rw [h.masked, Byte.lowest?_eq_none_iff]
    exact BitVec.zero_and

/-- A mainline cycle is followed by one that executes the same instruction, whatever the timer
says. -/
theorem mainline {c : Cycle} {i : Instruction} (h : Shadows z c.before m₂) (he : c.Executes i)
    (hi : Secluded z c.polled i) (tick : Bool) :
    ∃ d : Cycle, d.before = m₂ ∧ d.tick = tick ∧ d.Executes i ∧ Shadows z c.after d.after := by
  have halike := h.alike.poll c.tick tick
  have hroom : c.polled.sink.Roomier (m₂.poll tick).sink := by
    rw [c.sink_polled, Machine.sink_poll]
    exact h.roomier
  obtain ⟨m₂', he', halike', hroom'⟩ := hi.effect halike hroom (he.effect c.succeeds)
  obtain ⟨d, hbefore, htick, hd, hafter⟩ :=
    Cycle.exists_of_effect h.pending? (hi.fetch halike he.2) he'
  refine ⟨d, hbefore, htick, hd, ?_⟩
  rw [hafter]
  refine ⟨halike', ?_, hroom'⟩
  have hdest : i.dest? ≠ some Reg.im := fun hd =>
    (hi.named _ (Instruction.mem_named_of_dest? hd)).1 rfl
  rw [he'.reg_of_ne hdest hi.ne_iret (fun e => absurd e (by decide))
    (fun e => absurd e (by decide)), Machine.reg_poll_of_ne _ _ (by decide), h.masked]

/-- An episode that stores in the scratch area only is not followed by anything. -/
theorem episode {e : Episode} (h : Shadows z e.before m₂)
    (hw : ∀ c ∈ e.cycles, ∀ a ∈ c.writes, e.before.Scratch z a.toNat) :
    Shadows z e.after m₂ := by
  have hr := e.restored
  refine ⟨⟨?_, ?_, ?_, ?_⟩, h.masked, e.reaches.sink_roomier.trans h.roomier⟩
  · rw [h.alike.pc, hr.pc]
  · rw [h.alike.flags, hr.flags]
  · intro r him his
    rw [h.alike.reg r him his, hr.reg r him his]
  · intro a ha
    rw [Machine.Scratch, hr.reg _ (by decide) (by decide)] at ha
    have hkept : e.after.memory.load a = e.before.memory.load a :=
      e.reaches.load_of_notMem_writes fun c hc hmem => ha (hw c hc a hmem)
    rw [h.alike.load a ha, hkept]

end Shadows

/-- `Interleaved z m cs m'`: a run from `m` to `m'` of mainline cycles, which are `cs`, and whole
episodes that store in the scratch area only, in any order. -/
inductive Interleaved (z : Nat) : Machine → List Cycle → Machine → Prop where
  | nil (m : Machine) : Interleaved z m [] m
  | mainline {c : Cycle} {i : Instruction} {cs : List Cycle} {m' : Machine} :
    c.Executes i → Secluded z c.polled i → Interleaved z c.after cs m' →
      Interleaved z c.before (c :: cs) m'
  | episode (e : Episode) {cs : List Cycle} {m' : Machine} :
    (∀ c ∈ e.cycles, ∀ a ∈ c.writes, e.before.Scratch z a.toNat) →
      Interleaved z e.after cs m' → Interleaved z e.before cs m'

/-- The cycles do the same, and the machines after them look alike. -/
def Cycle.Mirrors (z : Nat) (c d : Cycle) : Prop :=
  (∃ i, c.Executes i ∧ d.Executes i) ∧ Machine.Alike z c.after d.after

theorem Interleaved.shadowed {z : Nat} {m m' m₂ : Machine} {cs : List Cycle}
    (h : Interleaved z m cs m') (hs : Shadows z m m₂) {ticks : List Bool}
    (hticks : ticks.length = cs.length) :
    ∃ ds m₂', Reaches m₂ ds m₂' ∧ ds.map (·.tick) = ticks ∧
      List.Forall₂ (Cycle.Mirrors z) cs ds ∧ Shadows z m' m₂' := by
  -- The machine that follows stands still through an episode and takes one step otherwise.
  induction h generalizing m₂ ticks with
  | nil m =>
    obtain rfl := List.length_eq_zero_iff.1 hticks
    exact ⟨[], m₂, .nil m₂, rfl, .nil, hs⟩
  | @mainline c i cs m' he hi _ ih =>
    obtain ⟨tick, ticks, rfl⟩ := List.exists_cons_of_length_eq_add_one hticks
    obtain ⟨d, rfl, rfl, hd, hs'⟩ := hs.mainline he hi tick
    obtain ⟨ds, m₂', hreach, rfl, hall, hend⟩ := ih hs' (Nat.succ.inj hticks)
    exact ⟨d :: ds, m₂', .cons d hreach, rfl, .cons ⟨⟨i, he, hd⟩, hs'.alike⟩ hall, hend⟩
  | episode e hw _ ih => exact ih (hs.episode hw) hticks

/-- The machine on which interrupts are masked out executes exactly the mainline of an interleaved
run, whatever its timer says, and looks alike after each instruction. -/
theorem masked_run_of_interleaved {z : Nat} {m m' : Machine} {cs : List Cycle}
    (h : Interleaved z m cs m') {ticks : List Bool} (hticks : ticks.length = cs.length) :
    ∃ ds m₂, Reaches (m.setReg Reg.im 0) ds m₂ ∧ ds.map (·.tick) = ticks ∧
      List.Forall₂ (Cycle.Mirrors z) cs ds ∧ Machine.Alike z m' m₂ := by
  obtain ⟨ds, m₂, hreach, hmap, hall, hend⟩ := h.shadowed (.setMask m z) hticks
  exact ⟨ds, m₂, hreach, hmap, hall, hend.alike⟩

/-- The machine increments R0 twice. Interrupt 0 is let through, and its handler at address 32 puts 7
into R1. -/
def counter : Machine :=
  ((Machine.fresh .unbounded).setReg Reg.im 1).patch
    [(0, 0x65), (2, 0x65), (32, 0x82), (33, 1), (34, 7), (35, 0x13), (0xF8, 32)]

/-- The first increment, during which the timer ticks. -/
def counterFirst : Cycle := ⟨⟨counter, true⟩, by decide +kernel⟩

def counterDispatch : Cycle := ⟨⟨counterFirst.after, false⟩, by decide +kernel⟩

def counterHandler : Cycle := ⟨⟨counterDispatch.after, false⟩, by decide +kernel⟩

def counterEpisode : Episode where
  interrupt := Machine.timerInterrupt
  dispatch := counterDispatch
  handler := [counterHandler]
  exit := ⟨⟨counterHandler.after, false⟩, by decide +kernel⟩
  dispatches := by decide +kernel
  handles := .single counterHandler
  frame := by decide +kernel
  returns := by decide +kernel

def counterSecond : Cycle := ⟨⟨counterEpisode.after, false⟩, by decide +kernel⟩

theorem counter_interleaved :
    Interleaved 0xE0 counter [counterFirst, counterSecond] counterSecond.after := by
  have hfirst : counterFirst.Executes (.unary .inc 0) := by decide +kernel
  have hsecond : counterSecond.Executes (.unary .inc 0) := by decide +kernel
  have hkeepFirst : Secluded 0xE0 counterFirst.polled (.unary .inc 0) := by
    constructor <;> decide +kernel
  have hkeepSecond : Secluded 0xE0 counterSecond.polled (.unary .inc 0) := by
    constructor <;> decide +kernel
  apply Interleaved.mainline hfirst hkeepFirst
  apply Interleaved.episode counterEpisode (by decide +kernel)
  exact .mainline hsecond hkeepSecond (.nil _)

theorem masked_run_of_counter :
    Interleaved 0xE0 counter [counterFirst, counterSecond] counterSecond.after ∧
      [false, true].length = [counterFirst, counterSecond].length ∧
      ∃ ds m₂, Reaches (counter.setReg Reg.im 0) ds m₂ ∧ ds.map (·.tick) = [false, true] ∧
        List.Forall₂ (Cycle.Mirrors 0xE0) [counterFirst, counterSecond] ds ∧
        Machine.Alike 0xE0 counterSecond.after m₂ :=
  ⟨counter_interleaved, rfl, masked_run_of_interleaved counter_interleaved rfl⟩

end ByteMachine
