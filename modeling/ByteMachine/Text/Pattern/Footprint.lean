import ByteMachine.Text.Pattern.Normal
import ByteMachine.Text.Utf8
import ByteMachine.Text.Utf8.Sequence

/-! The bytes that the states of a search machine for a pattern take. A machine reads the bytes of a
text in UTF-8, forward or backward. Each state takes 32 bytes; a state that leads on by several
spans of bytes takes 8 more for each span, and a fork, which reads nothing, 4 more for each link. A
part that is to be repeated a given number of times is built that number of times. -/

namespace ByteMachine.Text.Pattern

inductive Direction where
  | forward
  | backward
  deriving DecidableEq, Repr

def stateBytes : Nat := 32
def spanBytes : Nat := 8
def linkBytes : Nat := 4

/-- The states that read the sequences forward, each given by what is left of the sequences there.
The sequences have at most `depth` spans. -/
def suffixStates : (depth : Nat) → List Utf8.Sequence → List (List Utf8.Sequence)
  | 0, _ => []
  | depth + 1, sequences =>
    if sequences.all List.isEmpty then []
    else
      let heads := (sequences.filterMap List.head?).eraseDups
      sequences :: heads.flatMap fun head =>
        suffixStates depth ((sequences.filter (·.head? = some head)).map List.tail)

/-- The bytes for one character of a set. Forward, equal ends of encodings share their states, and
backward, equal beginnings. -/
def setBytes (d : Direction) (s : CharSet) : Nat :=
  if s.isAscii then 2 * stateBytes + spanBytes * s.spans.length
  else
    let sequences := Utf8.sequences s
    match d with
    | .forward =>
      let states := (suffixStates 4 sequences).eraseDups
      let sizes := states.map fun state =>
        stateBytes + spanBytes * (state.filterMap List.head?).eraseDups.length
      stateBytes + sizes.foldl (· + ·) 0
    | .backward =>
      let states := (sequences.flatMap fun sequence =>
        (List.range sequence.length).map fun n => sequence.take (n + 1)).eraseDups
      2 * stateBytes + stateBytes * states.length + linkBytes * sequences.length

/-- The words, cut where one of them ends. -/
def chunks : List (List Byte) → List (List (List Byte))
  | [] => [[]]
  | [] :: words => [] :: chunks words
  | word :: words =>
    match chunks words with
    | [] => [[word]]
    | chunk :: more => (word :: chunk) :: more

/-- The bytes for what follows the beginning that the words of a choice have in common. A word that
ends here parts those before it from those behind it, which are tried later; if several end before
any goes on, they count as one. Words have at most `depth` bytes. -/
def wordsBytes : (depth : Nat) → List (List Byte) → Nat
  | 0, _ => 0
  | depth + 1, words =>
    if words.all List.isEmpty then 0
    else
      let pieces := chunks (match words with
        | [] :: words => [] :: words.dropWhile List.isEmpty
        | words => words)
      let full := pieces.filter (!·.isEmpty)
      stateBytes + linkBytes * (full.length + (pieces.length - 1)) + (full.map fun chunk =>
        let heads := (chunk.filterMap List.head?).eraseDups
        stateBytes + (if heads.length = 1 then 0 else spanBytes * heads.length) +
          (heads.map fun head =>
            wordsBytes depth ((chunk.filter (·.head? = some head)).map List.tail)).sum).sum

def trieBytes (words : List (List Byte)) : Nat :=
  stateBytes + wordsBytes (words.foldl (fun n w => max n w.length) 0) words

structure Footprint where
  bytes : Nat
  forked : Bool
  deriving DecidableEq, Repr

namespace Footprint

/-- The bytes of a link from the end. -/
def link (f : Footprint) : Nat := if f.forked then linkBytes else 0

/-- A branch of a choice, with the links to and from it. -/
def branch (f : Footprint) : Footprint := ⟨f.bytes + linkBytes + f.link, false⟩

def exactly (f : Footprint) (n : Nat) : Footprint :=
  if n = 0 then ⟨stateBytes, false⟩ else ⟨n * f.bytes + (n - 1) * f.link, f.forked⟩

/-- At least `n` times in a row; `idle` tells that the part can take no characters. -/
def atLeast (f : Footprint) (n : Nat) (idle : Bool) : Footprint :=
  match n with
  | 0 =>
    if idle then ⟨f.bytes + 3 * stateBytes + 4 * linkBytes + f.link, false⟩
    else ⟨f.bytes + stateBytes + linkBytes + f.link, true⟩
  | 1 => ⟨f.bytes + stateBytes + linkBytes + f.link, true⟩
  | n + 1 => ⟨(f.exactly n).bytes + f.link + f.bytes + stateBytes + linkBytes + f.link, true⟩

/-- At least `least` and at most `most` times in a row, which are more. -/
def between (f : Footprint) (least most : Nat) : Footprint :=
  let more := most - least
  if least = 0 ∧ most = 1 then ⟨f.bytes + 2 * stateBytes + 2 * linkBytes + f.link, false⟩
  else
    ⟨(f.exactly least).bytes + stateBytes + more * (f.bytes + stateBytes + 2 * linkBytes) +
      ((if least = 0 then 0 else 1) + more) * f.link, false⟩

end Footprint

def words? (ps : List Pattern) : Option (List (List Byte)) :=
  ps.mapM fun
    | .literal chars => some (utf8 chars)
    | _ => none

/-- The footprint of a pattern, or of one that is the rest of a choice. -/
def footprint (d : Direction) (rest : Bool) (p : Pattern) : Footprint :=
  let part (f : Footprint) : Footprint := if rest then f.branch else f
  match p with
  | .empty | .assertion _ => part ⟨stateBytes, false⟩
  | .literal chars => part ⟨stateBytes * (utf8 chars).length, false⟩
  | .one set => part ⟨setBytes d set, false⟩
  | .capture _ p =>
    let f := p.footprint d false
    match d with
    | .forward => part ⟨f.bytes + 2 * stateBytes + f.link, false⟩
    | .backward => part f
  | .seq p q =>
    let f := p.footprint d false
    let g := q.footprint d false
    match d with
    | .forward => part ⟨f.bytes + f.link + g.bytes, g.forked⟩
    | .backward => part ⟨g.bytes + g.link + f.bytes, f.forked⟩
  | .alt p q =>
    let bytes := (p.footprint d false).branch.bytes + (q.footprint d true).bytes
    if rest then ⟨bytes, false⟩
    else
      match words? (branches (.alt p q)), d with
      | some words, .forward => ⟨trieBytes words, false⟩
      | some words, .backward => ⟨trieBytes (words.map List.reverse), false⟩
      | none, _ => ⟨2 * stateBytes + bytes, false⟩
  | .times p least most _ =>
    let f := p.footprint d false
    match most with
    | none => part (f.atLeast least (p.minLength.all (· = 0)))
    | some most => part (if least = most then f.exactly least else f.between least most)

/-- Whether what fits the pattern begins at the start of the text. -/
def startsText : Pattern → Bool
  | .assertion a => a = .textStart
  | .capture _ p => p.startsText
  | .seq p q => p.startsText || p.maxLength = some 0 && q.startsText
  | .alt p q => p.startsText && q.startsText
  | .times p least _ _ => 0 < least && p.startsText
  | _ => false

/-- Whether what fits the pattern ends at the end of the text. -/
def endsText : Pattern → Bool
  | .assertion a => a = .textEnd
  | .capture _ p => p.endsText
  | .seq p q => q.endsText || p.endsText && q.maxLength = some 0
  | .alt p q => p.endsText && q.endsText
  | .times p least _ _ => 0 < least && p.endsText
  | _ => false

/-- The bytes for a whole machine. One that need not begin at the end of the text where it starts
skips any bytes first; forward, the whole match is a part to refer to, too. -/
def machineBytes (d : Direction) (p : Pattern) : Nat :=
  let skip : Footprint := ⟨2 * stateBytes + spanBytes, false⟩
  let fixed := match d with
    | .forward => p.startsText
    | .backward => p.endsText
  let whole := (Pattern.capture 0 p).footprint d false
  (if fixed then stateBytes else (skip.atLeast 0 false).bytes + linkBytes) + whole.bytes +
    whole.link + stateBytes

end ByteMachine.Text.Pattern
