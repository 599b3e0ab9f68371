import ContractEmulator.Text.Unprinted

/-!
# Quoted text

A string as messages show it: in double quotes, with every character visible. Quotes and
backslashes take a backslash, tab, line feed, carriage return and NUL their letters, and a
character without a shape of its own its number in braces.
-/

namespace ContractEmulator.Quoted

/-- A character inside quotes. -/
def escape (c : Char) : List Char :=
  if c = '\x00' then ['\\', '0']
  else if c = '\t' then ['\\', 't']
  else if c = '\r' then ['\\', 'r']
  else if c = '\n' then ['\\', 'n']
  else if c = '"' then ['\\', '"']
  else if c = '\\' then ['\\', '\\']
  else if 0x20 ≤ c.toNat ∧ c.toNat < 0x7F then [c]
  else if Unprinted.isUnprinted c then
    ['\\', 'u', '\x7b'] ++ Nat.toDigits 16 c.toNat ++ ['\x7d']
  else [c]

/-- A string in double quotes. -/
def encode (s : String) : String :=
  String.ofList ('"' :: (s.toList.flatMap escape ++ ['"']))

end ContractEmulator.Quoted
