import ByteMachine.Text.Pattern

/-! Building patterns in a form without idle parts: characters in a row are one literal, nothing
empty stands in a sequence, sequences and choices do not directly contain others of their kind, and
what a choice's branches all begin with stands in front of it. -/

namespace ByteMachine.Text.Pattern

def never : Pattern := .one .empty

def ofSet (s : CharSet) : Pattern :=
  match s.only? with
  | some c => .literal [c]
  | none => .one s

/-- What follows one another in the pattern. -/
def parts : Pattern → List Pattern
  | .empty => []
  | .seq p q => p :: q.parts
  | p => [p]

def sequence : List Pattern → Pattern
  | [] => .empty
  | [p] => p
  | p :: rest => .seq p (sequence rest)

def pushPart : Pattern → List Pattern → List Pattern
  | .literal s, .literal t :: rest => .literal (s ++ t) :: rest
  | p, rest => p :: rest

def concat (ps : List Pattern) : Pattern := sequence ((ps.flatMap parts).foldr pushPart [])

def branches : Pattern → List Pattern
  | .alt p q => p :: q.branches
  | p => [p]

def choice : List Pattern → Pattern
  | [] => never
  | [p] => p
  | p :: rest => .alt p (choice rest)

def char? : Pattern → Option Char
  | .literal [c] => some c
  | _ => none

def set? : Pattern → Option CharSet
  | .one s => some s
  | _ => none

def common : List Pattern → List Pattern → List Pattern
  | p :: ps, q :: qs => if p = q then p :: common ps qs else []
  | _, _ => []

/-- The parts that all the branches begin with, if each has several parts, and what is left of the
branches. -/
def factor? (ps : List Pattern) : Option (List Pattern × List (List Pattern)) :=
  let lists := ps.map parts
  match lists with
  | [] => none
  | first :: rest =>
    let shared := rest.foldl common first
    if shared.isEmpty || lists.any (·.length < 2) then none
    else some (shared, lists.map (·.drop shared.length))

def size : Pattern → Nat
  | .empty | .literal _ | .one _ | .assertion _ => 1
  | .capture _ p => p.size + 1
  | .seq p q | .alt p q => p.size + q.size + 1
  | .times p _ _ _ => p.size + 1

/-- One of the patterns. A round leaves fewer nodes, of which there are at most `fuel`. -/
def anyOf : (fuel : Nat) → List Pattern → Pattern
  | 0, ps => choice ps
  | fuel + 1, ps =>
    match ps.flatMap branches with
    | [] => never
    | [p] => p
    | ps =>
      match ps.mapM char?, ps.mapM set? with
      | some chars, _ => ofSet (.unions (chars.map .single))
      | none, some sets => ofSet (.unions sets)
      | none, none =>
        match factor? ps with
        | some (shared, rests) => concat (shared ++ [anyOf fuel (rests.map concat)])
        | none => choice ps

def alternation (ps : List Pattern) : Pattern := anyOf ((ps.map size).foldl (· + ·) 0) ps

/-- The pattern so many times in a row. What takes no characters is not taken twice. -/
def repeated (p : Pattern) (least : Nat) (most : Option Nat) (greedy : Bool) : Pattern :=
  let idle := p.maxLength = some 0
  let least := if idle then min least 1 else least
  let most := if idle then some (min (most.getD 1) 1) else most
  if least = 0 ∧ most = some 0 then .empty
  else if least = 1 ∧ most = some 1 then p
  else .times p least most greedy

end ByteMachine.Text.Pattern
