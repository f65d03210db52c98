/-! Numbers in positional notation. `digits` gives the digits of a number and `value` reads
them back; the spellings below fix letter case and least width. -/

namespace ByteMachine.Radix

/-- The digits of `n`, most significant first. Zero has one digit, and no other number starts
with a zero digit. -/
def digits (base n : Nat) : List Nat :=
  if 2 ≤ base ∧ base ≤ n then digits base (n / base) ++ [n % base] else [n]
termination_by n
decreasing_by exact Nat.div_lt_self (by omega) (by omega)

def value (base : Nat) (ds : List Nat) : Nat :=
  ds.foldl (fun v d => v * base + d) 0

theorem value_append_singleton (base : Nat) (ds : List Nat) (d : Nat) :
    value base (ds ++ [d]) = value base ds * base + d := by
  simp [value]

@[simp] theorem value_digits (base n : Nat) : value base (digits base n) = n := by
  fun_induction digits base n with
  | case1 n _ ih => rw [value_append_singleton, ih, Nat.div_add_mod']
  | case2 n _ => simp [value]

/-- The character of a digit; digits from ten on are letters that start at `letter`. -/
def digitChar (letter : Char) (d : Nat) : Char :=
  if d < 10 then Char.ofNat ('0'.toNat + d) else Char.ofNat (letter.toNat + (d - 10))

/-- The number `n` in base `base`, with zeros in front up to `width` characters. -/
def spell (letter : Char) (base width n : Nat) : List Char :=
  ((digits base n).map (digitChar letter)).leftpad width '0'

def decimal (n : Nat) : String := String.ofList (spell 'a' 10 1 n)

/-- The number `n` in lowercase hexadecimal, without padding. -/
def hex (n : Nat) : String := String.ofList (spell 'a' 16 1 n)

/-- An address: `0x` and at least two lowercase hexadecimal digits. -/
def address (n : Nat) : String := "0x" ++ String.ofList (spell 'a' 16 2 n)

/-- A field of a trace: at least two uppercase hexadecimal digits. -/
def field (n : Nat) : List Char := spell 'A' 16 2 n

/-- A byte in binary: `0b` and eight digits. -/
def bits (n : Nat) : String := "0b" ++ String.ofList (spell 'a' 2 8 n)

end ByteMachine.Radix
