import ByteMachine.Text.Pattern.Normal
import ByteMachine.Text.Pattern.Tree

/-! What the parts of a pattern mean in the modes that hold where they stand. About characters
beyond ASCII no more is known than their code points: classes and cases that depend on more are
refused. A pattern about bytes must fit nothing but text. -/

namespace ByteMachine.Text

def Shorthand.set : Shorthand → CharSet
  | .digit => .digit
  | .space => .space
  | .word => .word

def SetOperator.apply : SetOperator → CharSet → CharSet → CharSet
  | .inter => .inter
  | .diff => .diff
  | .symmDiff => .symmDiff

namespace Modes

def flawed (extent : Extent) (flaw : PatternFlaw) : Except PatternError α :=
  .error ⟨flaw, extent, none⟩

def shorthand (ms : Modes) (extent : Extent) (s : Shorthand) (negated : Bool) :
    Except PatternError CharSet :=
  if ms.contains .unicode then flawed extent .shorthandUnknown
  else if negated then flawed extent .byteMatch
  else .ok s.set

/-- Why there is no class for the property. Names are compared without regard to case, to blanks and
dashes, and to a beginning `is`. -/
def propertyFlaw (ms : Modes) (name : List Char) : PatternFlaw :=
  let name := name.map Char.toLower
  let short := if ['i', 's'].isPrefixOf name then name.drop 2 else name
  let shown := short.filter fun c => c.toNat < 0x80 && c != ' ' && c != '_' && c != '-'
  if !ms.contains .unicode then .wideCharacter
  else if ["cf", "sc", "lc"].contains (String.ofList shown) then .propertyValueUnknown
  else .propertyUnknown

/-- The character that the letter is for a class. -/
def classChar (ms : Modes) (extent : Extent) (l : Letter) : Except PatternError Char :=
  if ms.contains .unicode || l.char.toNat < 0x80 then .ok l.char
  else if l.asByte then flawed extent .byteMatch
  else flawed extent .wideCharacter

/-- The members of a class as far as they come without brackets, with those that differ from them at
most by their case if that is asked for; `bare` tells that there are any. -/
def fold (ms : Modes) (extent : Extent) (bare : Bool) (s : CharSet) : Except PatternError CharSet :=
  if !ms.contains .anyCase then .ok s
  else if !ms.contains .unicode then .ok s.anyCase
  else if bare then flawed extent .anyCaseUnknown
  else .ok s

def close (ms : Modes) (extent : Extent) (negated bare : Bool) (members : CharSet) :
    Except PatternError CharSet := do
  let s ← ms.fold extent bare members
  if !negated then return s
  else if ms.contains .unicode then return s.compl
  else flawed extent .byteMatch

end Modes

/-- Whether a class has members that come without brackets and are not the result of an operator. -/
def ClassTree.bare : ClassTree → Bool
  | .symbol _ (.letter _) | .range _ _ _ => true
  | .union _ items => items.any fun
    | .symbol _ (.letter _) | .range _ _ _ => true
    | _ => false
  | _ => false

mutual

def ClassTree.set (ms : Modes) : ClassTree → Except PatternError CharSet
  | .empty _ => .ok .empty
  | .symbol e (.letter l) => do return .single (← ms.classChar e l)
  | .symbol e (.shorthand s negated) => ms.shorthand e s negated
  | .symbol e (.property name) => Modes.flawed e (ms.propertyFlaw name)
  | .range _ (e, a) (f, b) => do return .range (← ms.classChar e a) (← ms.classChar f b)
  | .named e s negated => ms.close e negated true s
  | .bracket e negated members => do ms.close e negated members.bare (← members.set ms)
  | .operation _ op l r => do
    let left ← l.set ms
    let right ← r.set ms
    let right ← ms.fold r.extent r.bare right
    let left ← ms.fold l.extent l.bare left
    return op.apply left right
  | .union _ items => ClassTree.setOfAll ms [] items

/-- The set of all the items, with the sets of those in front of them. -/
def ClassTree.setOfAll (ms : Modes) (before : List CharSet) :
    List ClassTree → Except PatternError CharSet
  | [] => .ok (.unions before)
  | t :: items => do ClassTree.setOfAll ms ((← t.set ms) :: before) items

end

def Modes.letter (ms : Modes) (extent : Extent) (l : Letter) : Except PatternError Pattern :=
  if ms.contains .unicode then
    if ms.contains .anyCase then flawed extent .anyCaseUnknown else .ok (.literal [l.char])
  else if l.asByte && 0x80 ≤ l.char.toNat then flawed extent .byteMatch
  else if ms.contains .anyCase && l.char.isAlpha then
    .ok (.ofSet (CharSet.single l.char).anyCase)
  else .ok (.literal [l.char])

def Modes.dot (ms : Modes) : CharSet :=
  if ms.contains .anyChar then .all
  else if ms.contains .carriageReturns then (CharSet.unions [.single '\n', .single '\r']).compl
  else (CharSet.single '\n').compl

def Mark.assertion (ms : Modes) : Mark → Assertion
  | .caret => if ms.contains .lineEnds then .lineStart else .textStart
  | .dollar => if ms.contains .lineEnds then .lineEnd else .textEnd
  | .textStart => .textStart
  | .textEnd => .textEnd
  | .word edge => .word edge (!ms.contains .unicode)

mutual

/-- The pattern that the tree spells, and the modes behind it. -/
def Tree.meaning (ms : Modes) : Tree → Except PatternError (Pattern × Modes)
  | .empty _ => .ok (.empty, ms)
  | .symbol e (.letter l) => do return (← ms.letter e l, ms)
  | .symbol e (.shorthand s negated) => do return (.ofSet (← ms.shorthand e s negated), ms)
  | .symbol e (.property name) => Modes.flawed e (ms.propertyFlaw name)
  | .dot e =>
    if ms.contains .unicode then .ok (.ofSet ms.dot, ms) else Modes.flawed e .byteMatch
  | .mark _ m => .ok (.assertion (m.assertion ms), ms)
  | .bracket e negated members => do
    return (.ofSet (← ms.close e negated members.bare (← members.set ms)), ms)
  | .modes _ c => .ok (.empty, ms.change c)
  | .group e .capture body => do return (.capture e.start (← body.meaning ms).1, ms)
  | .group _ (.modes c) body => do return ((← body.meaning (ms.change c)).1, ms)
  | .repetition _ body least most marked => do
    let (p, ms) ← body.meaning ms
    return (p.repeated least most (marked == ms.contains .short), ms)
  | .concat _ items => do
    let (ps, ms) ← Tree.meanings ms [] items
    return (.concat ps, ms)
  | .alternation _ items => do
    let (ps, ms) ← Tree.meanings ms [] items
    return (.alternation ps, ms)

/-- The patterns of the items from left to right, behind those in front of them, of which the last
comes first. -/
def Tree.meanings (ms : Modes) (before : List Pattern) :
    List Tree → Except PatternError (List Pattern × Modes)
  | [] => .ok (before.reverse, ms)
  | t :: items => do
    let (p, ms) ← t.meaning ms
    Tree.meanings ms (p :: before) items

end

end ByteMachine.Text
