/-!
# White space

The characters with the Unicode property `White_Space`, and the text between them.

* `trim` drops blanks from both ends and nothing else.
-/

namespace ContractEmulator.Blank

/-- The ranges of the property `White_Space`, ends included. -/
def ranges : List (Nat × Nat) :=
  [(0x09, 0x0D), (0x20, 0x20), (0x85, 0x85), (0xA0, 0xA0), (0x1680, 0x1680),
   (0x2000, 0x200A), (0x2028, 0x2029), (0x202F, 0x202F), (0x205F, 0x205F), (0x3000, 0x3000)]

/-- Membership in the property. -/
def isBlank (c : Char) : Bool :=
  ranges.any fun (low, high) => low ≤ c.toNat && c.toNat ≤ high

/-- The text without the blanks at its start. -/
def trimStart (text : List Char) : List Char := text.dropWhile isBlank

/-- The text without the blanks at its end. -/
def trimEnd (text : List Char) : List Char := (text.reverse.dropWhile isBlank).reverse

/-- The text without the blanks at its ends. -/
def trim (text : List Char) : List Char := trimEnd (trimStart text)

end ContractEmulator.Blank
