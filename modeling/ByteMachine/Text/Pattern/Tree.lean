import ByteMachine.Text.Pattern
import ByteMachine.Text.Pattern.Error
import ByteMachine.Text.Pattern.Modes

/-! The parts of a pattern as they are spelled. What a part means depends on the modes that hold
where it stands. -/

namespace ByteMachine.Text

structure Letter where
  char : Char
  /-- It is spelled by two hexadecimal digits, like a byte. -/
  asByte : Bool
  deriving DecidableEq, Repr

/-- The classes of characters that a letter stands for. -/
inductive Shorthand where
  | digit
  | space
  | word
  deriving DecidableEq, Repr

/-- What a bracket can hold as well. -/
inductive Symbol where
  | letter (l : Letter)
  | shorthand (s : Shorthand) (negated : Bool)
  /-- The characters with a property, or those without it. -/
  | property (name : List Char)
  deriving DecidableEq, Repr

inductive Mark where
  | caret
  | dollar
  | textStart
  | textEnd
  | word (edge : WordEdge)
  deriving DecidableEq, Repr

inductive SetOperator where
  | inter
  | diff
  | symmDiff
  deriving DecidableEq, Repr

inductive ClassTree where
  | empty (extent : Extent)
  | symbol (extent : Extent) (s : Symbol)
  | range (extent : Extent) (first last : Extent × Letter)
  | named (extent : Extent) (set : CharSet) (negated : Bool)
  | bracket (extent : Extent) (negated : Bool) (members : ClassTree)
  | operation (extent : Extent) (op : SetOperator) (left right : ClassTree)
  | union (extent : Extent) (items : List ClassTree)
  deriving Repr

def ClassTree.extent : ClassTree → Extent
  | .empty e | .symbol e _ | .range e _ _ | .named e _ _ | .bracket e _ _ | .operation e _ _ _
  | .union e _ => e

inductive Grouping where
  | capture
  | modes (c : ModeChange)
  deriving DecidableEq, Repr

inductive Tree where
  | empty (extent : Extent)
  | symbol (extent : Extent) (s : Symbol)
  | dot (extent : Extent)
  | mark (extent : Extent) (m : Mark)
  | bracket (extent : Extent) (negated : Bool) (members : ClassTree)
  | modes (extent : Extent) (c : ModeChange)
  | group (extent : Extent) (grouping : Grouping) (body : Tree)
  /-- The mark behind the counts of a repetition sets `marked`. -/
  | repetition (extent : Extent) (body : Tree) (least : Nat) (most : Option Nat) (marked : Bool)
  | concat (extent : Extent) (items : List Tree)
  | alternation (extent : Extent) (items : List Tree)
  deriving Repr

def Tree.extent : Tree → Extent
  | .empty e | .symbol e _ | .dot e | .mark e _ | .bracket e _ _ | .modes e _ | .group e _ _
  | .repetition e _ _ _ _ | .concat e _ | .alternation e _ => e

/-! The first part, from left to right and from the outside in, that has more than so many parts
around it that count, itself among them. -/

mutual

def ClassTree.tooDeep? (left : Nat) : ClassTree → Option Extent
  | .empty _ | .symbol _ _ | .range _ _ _ | .named _ _ _ => none
  | .bracket e _ members =>
    match left with
    | 0 => some e
    | left + 1 => members.tooDeep? left
  | .operation e _ l r =>
    match left with
    | 0 => some e
    | left + 1 => l.tooDeep? left <|> r.tooDeep? left
  | .union e items =>
    match left with
    | 0 => some e
    | left + 1 => firstTooDeep? left items

def ClassTree.firstTooDeep? (left : Nat) : List ClassTree → Option Extent
  | [] => none
  | t :: items => t.tooDeep? left <|> firstTooDeep? left items

end

mutual

def Tree.tooDeep? (left : Nat) : Tree → Option Extent
  | .empty _ | .symbol _ _ | .dot _ | .mark _ _ | .modes _ _ => none
  | .bracket e _ members =>
    match left with
    | 0 => some e
    | left + 1 => members.tooDeep? left
  | .group e _ body | .repetition e body _ _ _ =>
    match left with
    | 0 => some e
    | left + 1 => body.tooDeep? left
  | .concat e items | .alternation e items =>
    match left with
    | 0 => some e
    | left + 1 => firstTooDeep? left items

def Tree.firstTooDeep? (left : Nat) : List Tree → Option Extent
  | [] => none
  | t :: items => t.tooDeep? left <|> firstTooDeep? left items

end

end ByteMachine.Text
