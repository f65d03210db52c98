import ByteMachine.Proofs.Counter
import ByteMachine.Proofs.Episode

/-! A comparison decides the conditional jumps after it, up to the next comparison of the program.
The comparisons in handlers do not count. -/

namespace ByteMachine

/-- What a jump with the condition asks of the numbers that were compared. -/
def Condition.Says (x y : Byte) : Condition → Prop
  | .always => True
  | .equal => x.toNat = y.toNat
  | .notEqual => x.toNat ≠ y.toNat
  | .greater => x.toNat > y.toNat
  | .less => x.toNat < y.toNat
  | .lessOrEqual => x.toNat ≤ y.toNat
  | .greaterOrEqual => x.toNat ≥ y.toNat

instance (x y : Byte) : (k : Condition) → Decidable (k.Says x y)
  | .always => inferInstanceAs (Decidable True)
  | .equal => inferInstanceAs (Decidable (x.toNat = y.toNat))
  | .notEqual => inferInstanceAs (Decidable (x.toNat ≠ y.toNat))
  | .greater => inferInstanceAs (Decidable (x.toNat > y.toNat))
  | .less => inferInstanceAs (Decidable (x.toNat < y.toNat))
  | .lessOrEqual => inferInstanceAs (Decidable (x.toNat ≤ y.toNat))
  | .greaterOrEqual => inferInstanceAs (Decidable (x.toNat ≥ y.toNat))

theorem Flag.isSet_compare (flag : Flag) (x y : Byte) :
    flag.isSet (compare x y).bit = true ↔ compare x y = flag := by
  rw [isSet_bit, decide_eq_true_iff, eq_comm]

/-- The flags of a comparison answer every condition as the numbers do. -/
theorem Condition.holds_compare (x y : Byte) (k : Condition) :
    k.holds (Flag.compare x y).bit = true ↔ k.Says x y := by
  have hequal := Flag.isSet_compare .equal x y
  have hgreater := Flag.isSet_compare .greater x y
  have hless := Flag.isSet_compare .less x y
  rw [Flag.compare_eq_equal_iff, ← BitVec.toNat_inj] at hequal
  rw [Flag.compare_eq_greater_iff, BitVec.lt_def] at hgreater
  rw [Flag.compare_eq_less_iff, BitVec.lt_def] at hless
  cases k with
  | always => simp [holds, Says]
  | equal => exact hequal
  | notEqual =>
    rw [holds, Bool.not_eq_true', ← Bool.not_eq_true, hequal]
    rfl
  | greater => exact hgreater
  | less => exact hless
  | lessOrEqual =>
    rw [holds, Bool.or_eq_true, hless, hequal, Says]
    omega
  | greaterOrEqual =>
    rw [holds, Bool.or_eq_true, hgreater, hequal, Says]
    omega

/-- A jump is fetched with its register if its condition holds, and else without. -/
theorem Machine.fetch_jump {m : Machine} {k : Condition} {i : Instruction}
    (hd : Operation.decode (m.code 0) = some (.control (.jump k))) (hf : m.fetch = .ok i) :
    k.holds m.regs.flags = true ∧ (∃ r : Reg, (m.code 1).toNat = r ∧ i = .jump k r) ∨
      k.holds m.regs.flags = false ∧ i = .skip k := by
  have hpc : m.pc < Memory.size :=
    Nat.lt_of_lt_of_le (Nat.lt_add_of_pos_right (fetched_pos i)) (encodes_of_fetch hf).inside
  rw [fetch_of_decode hpc hd, instruction] at hf
  split at hf
  · next hholds =>
    obtain ⟨r, hr, hi⟩ := bind_eq_ok.1 hf
    exact .inl ⟨hholds, r, (operandReg_eq_ok.1 hr).2, (Except.ok.inj hi).symm⟩
  · next hholds => exact .inr ⟨Bool.not_eq_true _ ▸ hholds, (Except.ok.inj hf).symm⟩

theorem Effect.pc_of_jump {m m' : Machine} {k : Condition} {r : Reg}
    (h : Effect m (.jump k r) m') : m'.pc = (m.reg r).toNat := by
  cases h
  rfl

theorem Effect.pc_of_skip {m m' : Machine} {k : Condition} (h : Effect m (.skip k) m') :
    m'.pc = m.pc + 2 := by
  cases h
  rfl

namespace Cycle

variable {c d : Cycle} {k : Condition} {x y : Byte}

/-- The cycle executes a jump with the condition, whether or not it is taken. -/
def Jumps (d : Cycle) (k : Condition) : Prop :=
  d.before.pending? = none ∧ Operation.decode (d.before.code 0) = some (.control (.jump k))

def Takes (d : Cycle) (k : Condition) : Prop := ∃ r, d.Executes (.jump k r)

/-- The jump is taken if the comparison of `x` with `y` says so, to the value of the register that
it names, and else the next instruction follows. -/
structure Obeys (d : Cycle) (k : Condition) (x y : Byte) : Prop where
  takes : d.Takes k ↔ k.Says x y
  target : d.Takes k →
    ∃ r : Reg, (d.before.code 1).toNat = r ∧ d.after.pc = (d.polled.reg r).toNat
  next : ¬d.Takes k → d.after.pc = d.before.pc + 2

theorem code_polled (d : Cycle) (n : Nat) : d.polled.code n = d.before.code n :=
  Machine.code_poll _ _ _

theorem Jumps.fetched (h : d.Jumps k) :
    k.holds d.before.regs.flags = true ∧
        (∃ r : Reg, (d.before.code 1).toNat = r ∧ d.Executes (.jump k r)) ∨
      k.holds d.before.regs.flags = false ∧ d.Executes (.skip k) := by
  obtain ⟨i, hi⟩ := d.dispatches_or_executes.resolve_left fun ⟨n, hn⟩ => by
    cases h.1.symm.trans hn
  have hfetch := Machine.fetch_jump ((d.code_polled 0).symm ▸ h.2) hi.2
  rw [code_polled, d.flags_polled] at hfetch
  rcases hfetch with ⟨hholds, r, hr, rfl⟩ | ⟨hholds, rfl⟩
  · exact .inl ⟨hholds, r, hr, hi⟩
  · exact .inr ⟨hholds, hi⟩

theorem not_takes_of_skip (h : d.Executes (.skip k)) : ¬d.Takes k := by
  rintro ⟨r, hr⟩
  cases h.inj hr

theorem Jumps.obeys (h : d.Jumps k) (hflags : d.before.regs.flags = (Flag.compare x y).bit) :
    d.Obeys k x y := by
  have hanswer := k.holds_compare x y
  rw [← hflags] at hanswer
  rcases h.fetched with ⟨hholds, r, hr, he⟩ | ⟨hholds, he⟩
  · have htakes : d.Takes k := ⟨r, he⟩
    have hpc := (he.effect d.succeeds).pc_of_jump
    exact ⟨iff_of_true htakes (hanswer.1 hholds), fun _ => ⟨r, hr, hpc⟩,
      fun hnot => absurd htakes hnot⟩
  · have hnot : ¬k.Says x y := by simp [← hanswer, hholds]
    have hpc : d.after.pc = d.before.pc + 2 := d.pc_polled ▸ (he.effect d.succeeds).pc_of_skip
    exact ⟨iff_of_false (not_takes_of_skip he) hnot,
      fun htakes => absurd htakes (not_takes_of_skip he), fun _ => hpc⟩

end Cycle

/-- `Uncompared m cs m'`: a run from `m` to `m'` of cycles that neither compare nor return from an
interrupt, which are `cs`, and of whole episodes, in any order. -/
inductive Uncompared : Machine → List Cycle → Machine → Prop where
  | nil (m : Machine) : Uncompared m [] m
  | mainline {c : Cycle} {i : Instruction} {cs : List Cycle} {m' : Machine} :
    c.Executes i → (∀ a b, i ≠ .binary .cmp a b) → i ≠ .iret → Uncompared c.after cs m' →
      Uncompared c.before (c :: cs) m'
  | episode (e : Episode) {cs : List Cycle} {m' : Machine} :
    Uncompared e.after cs m' → Uncompared e.before cs m'

/-- Every cycle outside the episodes finds the flags from before the run. -/
theorem Uncompared.flags {m m' : Machine} {cs : List Cycle} (h : Uncompared m cs m') :
    ∀ d ∈ cs, d.before.regs.flags = m.regs.flags := by
  induction h with
  | nil m =>
    intro d hd
    cases hd
  | @mainline c i cs m' he hcmp hret _ ih =>
    have hkept : c.after.regs.flags = c.before.regs.flags :=
      ((he.effect c.succeeds).flags_of_ne hcmp hret).trans c.flags_polled
    rw [List.forall_mem_cons]
    exact ⟨rfl, fun d hd => (ih d hd).trans hkept⟩
  | episode e _ ih => exact fun d hd => (ih d hd).trans e.restored.flags

/-- Up to the next comparison, every conditional jump outside the episodes is taken as the
comparison says, and goes where its register points at that moment. -/
theorem Uncompared.decides_jumps {c : Cycle} {a b : Reg} {cs : List Cycle} {m' : Machine}
    (h : c.Executes (.binary .cmp a b)) (hrun : Uncompared c.after cs m') :
    ∀ d ∈ cs, ∀ k : Condition, d.Jumps k → d.Obeys k (c.polled.reg a) (c.polled.reg b) := by
  intro d hd k hk
  exact hk.obeys ((hrun.flags d hd).trans (h.effect c.succeeds).flags_of_cmp)

/-- The machine compares 3 with 200, and jumps if they are equal and then if the first is less.
Interrupt 0 is let through, and its handler at address 32 compares 3 with itself. -/
def comparing : Machine :=
  { Machine.fresh .unbounded with regs := ⟨#v[3, 200, 0x40, 0, 0, 1, 0, 0xF4], 0, 0⟩ }.patch
    [(0, 0xA7), (2, 1), (3, 0x55), (4, 2), (5, 0x58), (6, 2), (32, 0xA7), (35, 0x13), (0xF8, 32)]

/-- The comparison, during which the timer ticks. -/
def comparingFirst : Cycle := ⟨⟨comparing, true⟩, by decide +kernel⟩

def comparingDispatch : Cycle := ⟨⟨comparingFirst.after, false⟩, by decide +kernel⟩

def comparingHandler : Cycle := ⟨⟨comparingDispatch.after, false⟩, by decide +kernel⟩

def comparingEpisode : Episode where
  interrupt := Machine.timerInterrupt
  dispatch := comparingDispatch
  handler := [comparingHandler]
  exit := ⟨⟨comparingHandler.after, false⟩, by decide +kernel⟩
  dispatches := by decide +kernel
  handles := .single comparingHandler
  frame := by decide +kernel
  returns := by decide +kernel

def comparingEqual : Cycle := ⟨⟨comparingEpisode.after, false⟩, by decide +kernel⟩

def comparingLess : Cycle := ⟨⟨comparingEqual.after, false⟩, by decide +kernel⟩

theorem uncompared_comparing :
    Uncompared comparingFirst.after [comparingEqual, comparingLess] comparingLess.after := by
  have hequal : comparingEqual.Executes (.skip .equal) := by decide +kernel
  have hless : comparingLess.Executes (.jump .less 2) := by decide +kernel
  apply Uncompared.episode comparingEpisode
  apply Uncompared.mainline hequal nofun nofun
  exact .mainline hless nofun nofun (.nil _)

theorem decides_jumps_comparing :
    comparingFirst.Executes (.binary .cmp 0 1) ∧ comparingHandler.Executes (.binary .cmp 0 0) ∧
      Uncompared comparingFirst.after [comparingEqual, comparingLess] comparingLess.after ∧
      comparingEqual.Obeys .equal 3 200 ∧ comparingLess.Obeys .less 3 200 ∧
      comparingEqual.after.pc = 5 ∧ comparingLess.after.pc = 0x40 := by
  have hfirst : comparingFirst.Executes (.binary .cmp 0 1) := by decide +kernel
  have hdecides := uncompared_comparing.decides_jumps hfirst
  have hequal : comparingEqual.Obeys .equal 3 200 :=
    hdecides comparingEqual (by simp) .equal ⟨by decide +kernel, by decide +kernel⟩
  have hless : comparingLess.Obeys .less 3 200 :=
    hdecides comparingLess (by simp) .less ⟨by decide +kernel, by decide +kernel⟩
  refine ⟨hfirst, by decide +kernel, uncompared_comparing, hequal, hless, ?_, ?_⟩
  · rw [hequal.next fun htakes => absurd (hequal.takes.1 htakes) (by decide)]
    decide +kernel
  · obtain ⟨r, hr, hpc⟩ := hless.target (hless.takes.2 (by decide))
    obtain rfl : r = 2 := Fin.ext (hr.symm.trans (by decide +kernel))
    rw [hpc]
    decide +kernel

end ByteMachine
