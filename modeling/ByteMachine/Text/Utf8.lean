import ByteMachine.Byte

/-! The bytes of a text. -/

namespace ByteMachine.Text

def utf8 (text : List Char) : List Byte :=
  (text.flatMap String.utf8EncodeChar).map UInt8.toBitVec

@[simp] theorem utf8_nil : utf8 [] = [] := rfl

@[simp] theorem utf8_append (s t : List Char) : utf8 (s ++ t) = utf8 s ++ utf8 t := by
  simp [utf8]

end ByteMachine.Text
