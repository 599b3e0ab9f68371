import ContractEmulator.Decimal.Shortest
import ContractEmulator.Json.Basic

/-!
# The text of a JSON value

* `Json.compact` writes a value without blanks.
* `Json.pretty` writes one entry or item to a line, two spaces further in at each level; empty
  arrays and objects stay on one line.

Objects are written in the order of their entries.
-/

namespace ContractEmulator.Json

/-- Fractions are positional from `0.00001` up to sixteen digits before the point. -/
def floatFormat : FloatFormat := ⟨-4, 16⟩

/-- The decimal text of an integer. -/
def intText (n : Int) : List Char :=
  if n < 0 then '-' :: Nat.toDigits 10 n.natAbs else Nat.toDigits 10 n.natAbs

/-- A character inside quotes: only quotes, backslashes and the characters below U+0020 are
escaped, those without a short escape by their number. -/
def escape (c : Char) : List Char :=
  if c = '"' then ['\\', '"']
  else if c = '\\' then ['\\', '\\']
  else if c = '\x08' then ['\\', 'b']
  else if c = '\x0c' then ['\\', 'f']
  else if c = '\n' then ['\\', 'n']
  else if c = '\r' then ['\\', 'r']
  else if c = '\t' then ['\\', 't']
  else if c.toNat < 0x20 then
    ['\\', 'u', '0', '0', Nat.digitChar (c.toNat / 16), Nat.digitChar (c.toNat % 16)]
  else [c]

/-- A string in quotes. -/
def quote (s : String) : List Char := '"' :: (s.toList.flatMap escape ++ ['"'])

/-- The text of a value that is neither an array nor an object. -/
def scalarText : Json → List Char
  | .null => ['n', 'u', 'l', 'l']
  | .bool true => ['t', 'r', 'u', 'e']
  | .bool false => ['f', 'a', 'l', 's', 'e']
  | .int n => intText n
  | .float bits => (Binary64.render? floatFormat bits).getD ['n', 'u', 'l', 'l']
  | .str s => quote s
  | .arr _ => []
  | .obj _ => []

mutual

/-- The characters of the compact text. -/
def compactChars : Json → List Char
  | .arr items => '[' :: (compactItems items ++ [']'])
  | .obj entries => '{' :: (compactEntries entries ++ ['}'])
  | .null => scalarText .null
  | .bool b => scalarText (.bool b)
  | .int n => scalarText (.int n)
  | .float bits => scalarText (.float bits)
  | .str s => scalarText (.str s)
  termination_by structural j => j

/-- Items with commas between them. -/
def compactItems : List Json → List Char
  | [] => []
  | item :: items =>
    compactChars item ++ (if items.isEmpty then [] else [',']) ++ compactItems items
  termination_by structural items => items

/-- Entries with commas between them. -/
def compactEntries : List (String × Json) → List Char
  | [] => []
  | (key, value) :: entries =>
    quote key ++ ':' :: (compactChars value ++ (if entries.isEmpty then [] else [','])
      ++ compactEntries entries)
  termination_by structural entries => entries

end

/-- The text of a value without blanks. -/
def compact (j : Json) : String := String.ofList (compactChars j)

/-- The start of a line at the given level. -/
def newline (level : Nat) : List Char := '\n' :: List.replicate (2 * level) ' '

mutual

/-- The characters of the indented text of a value that starts at `level`. -/
def prettyChars (level : Nat) : Json → List Char
  | .arr items =>
    if items.isEmpty then ['[', ']']
    else '[' :: (prettyItems (level + 1) items ++ newline level ++ [']'])
  | .obj entries =>
    if entries.isEmpty then ['{', '}']
    else '{' :: (prettyEntries (level + 1) entries ++ newline level ++ ['}'])
  | .null => scalarText .null
  | .bool b => scalarText (.bool b)
  | .int n => scalarText (.int n)
  | .float bits => scalarText (.float bits)
  | .str s => scalarText (.str s)
  termination_by structural j => j

/-- Items on lines of their own. -/
def prettyItems (level : Nat) : List Json → List Char
  | [] => []
  | item :: items =>
    newline level ++ prettyChars level item ++ (if items.isEmpty then [] else [','])
      ++ prettyItems level items
  termination_by structural items => items

/-- Entries on lines of their own. -/
def prettyEntries (level : Nat) : List (String × Json) → List Char
  | [] => []
  | (key, value) :: entries =>
    newline level ++ quote key ++ ':' :: ' ' :: (prettyChars level value
      ++ (if entries.isEmpty then [] else [',']) ++ prettyEntries level entries)
  termination_by structural entries => entries

end

/-- The text of a value with one item or entry to a line. -/
def pretty (j : Json) : String := String.ofList (prettyChars 0 j)

end ContractEmulator.Json
