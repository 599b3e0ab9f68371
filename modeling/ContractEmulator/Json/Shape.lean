import ContractEmulator.Json.Printer
import ContractEmulator.Text.Quoted

/-!
# Values of the wrong shape

What a typed reader reports: `ShapeError` for a value of the wrong shape, `ReadError` for that or
for a text that is no JSON at all.
-/

namespace ContractEmulator

/-- A name or value in backquotes. -/
def ticked (name : String) : String := "`" ++ name ++ "`"

/-- A kind of value by a word, with the value itself if it is a scalar. -/
def Json.describe : Json → String
  | .null => "null"
  | .bool b => "boolean " ++ ticked (Json.bool b).compact
  | .int n => "integer " ++ ticked (Json.int n).compact
  | .float bits => "floating point " ++ ticked (Json.float bits).compact
  | .str s => "string " ++ Quoted.encode s
  | .arr _ => "sequence"
  | .obj _ => "map"

/-- How a value differs from the shape that was expected. -/
inductive ShapeError where
  | wrongType (found : Json) (expected : String)
  | wrongValue (found : Json) (expected : String)
  | missingField (name : String)
  | duplicateField (name : String)
  | unknownVariant (name : String) (known : List String)
  | wrongLength (length : Nat) (expected : String)

namespace ShapeError

/-- The names that would have been accepted. -/
def alternatives : List String → String
  | [] => "there are no variants"
  | [a] => "expected " ++ ticked a
  | [a, b] => "expected " ++ ticked a ++ " or " ++ ticked b
  | names => "expected one of " ++ String.intercalate ", " (names.map ticked)

/-- The wording of a shape error. -/
def message : ShapeError → String
  | .wrongType found expected => s!"invalid type: {found.describe}, expected {expected}"
  | .wrongValue found expected => s!"invalid value: {found.describe}, expected {expected}"
  | .missingField name => s!"missing field {ticked name}"
  | .duplicateField name => s!"duplicate field {ticked name}"
  | .unknownVariant name known => s!"unknown variant {ticked name}, {alternatives known}"
  | .wrongLength length expected => s!"invalid length {length}, expected {expected}"

/-- A number of elements in words. -/
def elements (n : Nat) : String := if n = 1 then "1 element" else s!"{n} elements"

end ShapeError

/-- Why a text was refused. -/
inductive ReadError where
  /-- The text is not JSON. -/
  | malformed
  | shape (error : ShapeError)

end ContractEmulator
