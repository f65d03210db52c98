/-! Sets of characters given as closed spans of code points, as the Unicode tables list them. -/

namespace ByteMachine.Text

/-- A set of code points as closed spans. -/
abbrev Spans := List (Nat × Nat)

def Spans.contains (spans : Spans) (c : Char) : Bool :=
  spans.any fun span => span.1 ≤ c.toNat && c.toNat ≤ span.2

end ByteMachine.Text
