import ByteMachine.Fault

/-! Where the program's output goes. A sink may be bounded and may refuse to flush. -/

namespace ByteMachine

structure Sink where
  /-- How many bytes the sink takes; without a number, any number. -/
  capacity : Option Nat
  flushable : Bool
  written : Array Byte
  flushes : Nat
  deriving DecidableEq

namespace Sink

def unbounded : Sink := ⟨none, true, #[], 0⟩

def isFull (s : Sink) : Bool :=
  match s.capacity with
  | none => false
  | some n => n ≤ s.written.size

/-- Writes one byte after another until one does not fit. -/
def write (s : Sink) : List Byte → Sink × Option OutputError
  | [] => (s, none)
  | b :: bs =>
    if s.isFull then (s, some .full) else { s with written := s.written.push b }.write bs

def flush (s : Sink) : Sink × Option OutputError :=
  if s.flushable then ({ s with flushes := s.flushes + 1 }, none) else (s, some .flushFailed)

theorem write_of_capacity_none {s : Sink} (h : s.capacity = none) (bs : List Byte) :
    s.write bs = ({ s with written := s.written ++ bs }, none) := by
  induction bs generalizing s with
  | nil => simp [write]
  | cons b bs ih =>
    rw [write, if_neg (by simp [isFull, h]), ih (s := { s with written := s.written.push b }) h]
    simp

end Sink

end ByteMachine
