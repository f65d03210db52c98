/-! A source of ticks. Instants and periods are counted in nanoseconds. -/

namespace ByteMachine

structure Timer where
  period : Nat
  last : Nat
  deriving DecidableEq, Repr

namespace Timer

/-- The period in milliseconds where none is given. -/
def defaultMillis : Nat := 1000

def ofMillis (millis now : Nat) : Timer := ⟨millis * 1000000, now⟩

def reset (t : Timer) (now : Nat) : Timer := { t with last := now }

/-- Whether a full period has elapsed at `now`; if so, the next one starts there. An instant
before the start of the period counts as none elapsed. -/
def poll (t : Timer) (now : Nat) : Bool × Timer :=
  if t.period ≤ now - t.last then (true, t.reset now) else (false, t)

theorem poll_fst (t : Timer) (now : Nat) : (t.poll now).1 = decide (t.period ≤ now - t.last) := by
  unfold poll
  split <;> simp [*]

@[simp] theorem period_poll (t : Timer) (now : Nat) : (t.poll now).2.period = t.period := by
  unfold poll
  split <;> rfl

end Timer

end ByteMachine
