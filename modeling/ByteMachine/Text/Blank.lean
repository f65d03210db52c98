import ByteMachine.Text.Span

/-! White space in the sense of the Unicode property `White_Space`, and its removal at the two
ends of a text. -/

namespace ByteMachine.Text

/-- The code points with the property `White_Space`. -/
def blankSpans : Spans :=
  [(0x9, 0xd), (0x20, 0x20), (0x85, 0x85), (0xa0, 0xa0), (0x1680, 0x1680), (0x2000, 0x200a),
   (0x2028, 0x2029), (0x202f, 0x202f), (0x205f, 0x205f), (0x3000, 0x3000)]

def isBlank (c : Char) : Bool := blankSpans.contains c

def trimEnd (text : List Char) : List Char :=
  (text.reverse.dropWhile isBlank).reverse

def trim (text : List Char) : List Char :=
  trimEnd (text.dropWhile isBlank)

end ByteMachine.Text
