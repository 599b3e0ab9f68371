/-!
# Texts measured in bytes

The place of a character in a text counts the bytes of the UTF-8 form before it.
-/

namespace ContractEmulator.Bytes

/-- The length of a text in bytes. -/
def byteLength (text : List Char) : Nat := text.foldr (fun c n => c.utf8Size + n) 0

/-- The text before the place `n`, with the character that `n` falls into. -/
def takeTo : Nat → List Char → List Char
  | 0, _ => []
  | _, [] => []
  | n, c :: rest => c :: takeTo (n - c.utf8Size) rest

/-- The text from the place `n` on, without the character that `n` falls into. -/
def dropTo : Nat → List Char → List Char
  | 0, text => text
  | _, [] => []
  | n, c :: rest => dropTo (n - c.utf8Size) rest

end ContractEmulator.Bytes
