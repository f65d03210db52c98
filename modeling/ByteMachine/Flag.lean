import ByteMachine.Byte

/-! The flags that a comparison leaves behind and the conditions that jumps put on them. -/

namespace ByteMachine

inductive Flag where
  | equal
  | greater
  | less
  deriving DecidableEq, Repr

namespace Flag

def bit : Flag → Byte
  | .equal => 0b001
  | .greater => 0b010
  | .less => 0b100

def isSet (flag : Flag) (flags : Byte) : Bool := flags &&& flag.bit ≠ 0

/-- The one flag that holds of two bytes, compared as unsigned numbers. -/
def compare (a b : Byte) : Flag :=
  if a = b then .equal else if b < a then .greater else .less

/-- A comparison sets its own flag and no other. -/
theorem isSet_bit (flag other : Flag) : flag.isSet other.bit = decide (flag = other) := by
  cases flag <;> cases other <;> rfl

theorem compare_eq_equal_iff (a b : Byte) : compare a b = .equal ↔ a = b := by
  unfold compare
  split
  · simp [*]
  · split <;> simp [*]

theorem compare_eq_greater_iff (a b : Byte) : compare a b = .greater ↔ b < a := by
  unfold compare
  split
  · next h => simp [h]
  · split <;> simp [*]

theorem compare_eq_less_iff (a b : Byte) : compare a b = .less ↔ a < b := by
  unfold compare
  split
  · next h => simp [h]
  · split
    · next h => simp [BitVec.not_lt.2 (BitVec.le_of_lt h)]
    · next hne h => simp [BitVec.lt_of_le_ne (BitVec.not_lt.1 h) hne]

end Flag

inductive Condition where
  | always
  | equal
  | notEqual
  | greater
  | less
  | lessOrEqual
  | greaterOrEqual
  deriving DecidableEq, Repr

def Condition.holds (flags : Byte) : Condition → Bool
  | .always => true
  | .equal => Flag.equal.isSet flags
  | .notEqual => !Flag.equal.isSet flags
  | .greater => Flag.greater.isSet flags
  | .less => Flag.less.isSet flags
  | .lessOrEqual => Flag.less.isSet flags || Flag.equal.isSet flags
  | .greaterOrEqual => Flag.greater.isSet flags || Flag.equal.isSet flags

end ByteMachine
