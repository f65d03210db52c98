import ByteMachine.Proofs.Steady
import Mathlib.Data.BitVec

/-! Arithmetic in registers beside arithmetic on integers. Reduction modulo 256 is a ring map, so that
a program which adds, subtracts, multiplies and complements has in its registers the remainders of
the integers that it would compute without a bound. -/

namespace ByteMachine

/-- The operation on integers, which are complemented as numbers with endless sign bits. -/
def UnaryOp.onInt (x : Int) : UnaryOp → Int
  | .inc => x + 1
  | .dec => x - 1
  | .not => -x - 1

namespace Instruction

/-- The instruction computes in the ring of bytes, or does nothing but to go on. -/
def ringOnly : Instruction → Bool
  | .unary _ _ | .binary .add _ _ | .binary .sub _ _ | .binary .mul _ _ | .nop
  | .jump .always _ => true
  | _ => false

/-- The instruction with integers in place of the registers' bytes. -/
def onIntegers (v : Reg → Int) : Instruction → Reg → Int
  | .unary op a => Function.update v a (op.onInt (v a))
  | .binary .add a b => Function.update v a (v a + v b)
  | .binary .sub a b => Function.update v a (v a - v b)
  | .binary .mul a b => Function.update v a (v a * v b)
  | _ => v

end Instruction

theorem Byte.toNat_intCast (z : Int) : (((z : Byte).toNat : Nat) : Int) = z % 256 := by
  have hcast : (z : Byte) = BitVec.ofInt 8 z := rfl
  rw [hcast, BitVec.toNat_ofInt]
  exact Int.toNat_of_nonneg (Int.emod_nonneg z (by decide))

theorem UnaryOp.apply_intCast (op : UnaryOp) (x : Int) :
    op.apply (x : Byte) = (op.onInt x : Byte) := by
  cases op with
  | inc | dec => simp [apply, onInt]
  | not =>
    have hnot (b : Byte) : ~~~b = -b - 1 := by bv_omega
    simp [apply, onInt, hnot]

namespace Machine

variable {m m' : Machine} {i : Instruction} {v : Reg → Int}

/-- The registers as integers. -/
def integers (m : Machine) (r : Reg) : Int := (m.reg r).toNat

/-- The registers hold the remainders of these integers. -/
def Holds (m : Machine) (v : Reg → Int) : Prop := ∀ r, m.reg r = (v r : Byte)

theorem holds_integers (m : Machine) : m.Holds m.integers := by
  intro r
  simp [integers]

theorem Holds.setReg (h : m.Holds v) {a : Reg} {b : Byte} {z : Int} (hb : b = (z : Byte)) :
    (m.setReg a b).Holds (Function.update v a z) := by
  intro r
  rw [reg_setReg, Function.update_apply]
  split
  · exact hb
  · exact h r

theorem Holds.effect (h : m.Holds v) (hi : i.ringOnly = true) (heffect : Effect m i m') :
    m'.Holds (i.onIntegers v) := by
  cases heffect with
  | unary op a =>
    refine h.setReg ?_
    rw [h a, op.apply_intCast]
  | @value op a b w hw =>
    -- Divisions and bitwise operations yield values too, but are not taken up.
    cases op with
    | add | sub | mul =>
      obtain rfl := AluResult.value.inj (Except.ok.inj hw)
      refine h.setReg ?_
      rw [h a, h b]
      push_cast
      rfl
    | _ => cases hi
  | @flags op a b f hf =>
    obtain ⟨rfl, -⟩ := BinaryOp.eq_cmp_of_flags hf
    cases hi
  | nop | jump => exact h
  | _ => cases hi

theorem frame_of_ringOnly (hi : i.ringOnly = true) (heffect : Effect m i m') :
    m'.regs.flags = m.regs.flags ∧ m'.memory = m.memory ∧ m'.savedMask = m.savedMask := by
  have hret : i ≠ .iret := by
    rintro rfl
    cases hi
  refine ⟨heffect.flags_of_ne ?_ hret, Memory.ext_load fun addr => ?_, heffect.savedMask hret⟩
  · rintro a b rfl
    cases hi
  · have hstores : m.stores i = [] := by
      cases i with
      | st | push | call => cases hi
      | _ => rfl
    exact heffect.load_of_notMem (by simp [hstores])

end Machine

/-- Arithmetic meets no fault. -/
theorem Attempt.Executes.effect_of_ringOnly {a : Attempt} {i : Instruction} (he : a.Executes i)
    (hi : i.ringOnly = true) : Effect a.polled i a.after := by
  rcases he.effect_or_refusal with ⟨-, heffect⟩ | ⟨f, m, -, hrefused, -⟩
  · exact heffect
  · cases hrefused with
    | divide hop => rcases hop with rfl | rfl <;> cases hi
    | _ => cases hi

namespace Machine

variable {m : Machine} {is : List Instruction}

/-- Without a tick the machine executes these instructions one after another, all of which compute
in the ring of bytes. -/
def Computes (m : Machine) (is : List Instruction) : Prop :=
  ∀ j (hj : j < is.length), (m.attempt false j).Executes is[j] ∧ is[j].ringOnly = true

instance (m : Machine) (is : List Instruction) : Decidable (m.Computes is) :=
  inferInstanceAs (Decidable (∀ j (_ : j < is.length), _))

theorem Computes.effect (h : m.Computes is) {j : Nat} (hj : j < is.length) :
    Effect (m.stepped false j) is[j] (m.stepped false (j + 1)) := by
  rw [stepped_succ]
  exact (h j hj).1.effect_of_ringOnly (h j hj).2

theorem Computes.holds (h : m.Computes is) {j : Nat} (hj : j ≤ is.length) :
    (m.stepped false j).Holds ((is.take j).foldl Instruction.onIntegers m.integers) := by
  induction j with
  | zero => exact m.holds_integers
  | succ j ih =>
    rw [List.take_succ_eq_append_getElem hj, List.foldl_append]
    exact (ih (Nat.le_of_succ_le hj)).effect (h j hj).2 (h.effect hj)

theorem Computes.frame (h : m.Computes is) {j : Nat} (hj : j ≤ is.length) :
    (m.stepped false j).regs.flags = m.regs.flags ∧ (m.stepped false j).memory = m.memory ∧
      (m.stepped false j).savedMask = m.savedMask := by
  induction j with
  | zero => exact ⟨rfl, rfl, rfl⟩
  | succ j ih =>
    obtain ⟨hflags, hmemory, hmask⟩ := ih (Nat.le_of_succ_le hj)
    obtain ⟨hflags', hmemory', hmask'⟩ := frame_of_ringOnly (h j hj).2 (h.effect hj)
    exact ⟨hflags'.trans hflags, hmemory'.trans hmemory, hmask'.trans hmask⟩

/-- However long a machine only adds, subtracts, multiplies, complements and jumps, each of its
registers is the remainder of what the same instructions make of integers that are never reduced. -/
theorem Computes.reg_eq_integers_mod (h : m.Computes is) :
    ∀ j ≤ is.length,
      (∀ r, (((m.stepped false j).reg r).toNat : Int) =
        (is.take j).foldl Instruction.onIntegers m.integers r % 256) ∧
      (m.stepped false j).regs.flags = m.regs.flags ∧ (m.stepped false j).memory = m.memory ∧
      (m.stepped false j).savedMask = m.savedMask := by
  intro j hj
  refine ⟨fun r => ?_, h.frame hj⟩
  rw [h.holds hj r, Byte.toNat_intCast]

end Machine

/-- Squares and complements the mask, takes it from the stack pointer, and jumps back to where the
status register says. -/
def squaring : Machine :=
  ((Machine.fresh .unbounded).setReg Reg.im 3).patch
    [(0, 0xA2), (1, 5), (2, 5), (3, 0x69), (4, 5), (5, 0xA1), (6, 7), (7, 5), (8, 0x54), (9, 6)]

/-- The instructions of two rounds, after which the mask stands for -101 and the stack pointer
for 355. -/
def squaringRounds : List Instruction :=
  [.binary .mul Reg.im Reg.im, .unary .not Reg.im, .binary .sub Reg.sp Reg.im,
    .jump .always Reg.is, .binary .mul Reg.im Reg.im, .unary .not Reg.im,
    .binary .sub Reg.sp Reg.im, .jump .always Reg.is]

theorem reg_eq_integers_mod_squaring :
    squaring.Computes squaringRounds ∧
      (((squaring.stepped false 8).reg Reg.im).toNat : Int) = -101 % 256 ∧
      (((squaring.stepped false 8).reg Reg.sp).toNat : Int) = 355 % 256 ∧
      (squaring.stepped false 8).memory = squaring.memory := by
  have hcomputes : squaring.Computes squaringRounds := by decide +kernel
  obtain ⟨hreg, -, hmemory, -⟩ := hcomputes.reg_eq_integers_mod 8 (by decide)
  have him : squaringRounds.foldl Instruction.onIntegers squaring.integers Reg.im = -101 := by
    decide +kernel
  have hsp : squaringRounds.foldl Instruction.onIntegers squaring.integers Reg.sp = 355 := by
    decide +kernel
  refine ⟨hcomputes, ?_, ?_, hmemory⟩
  · rw [← him]
    exact hreg Reg.im
  · rw [← hsp]
    exact hreg Reg.sp

end ByteMachine
