import ContractEmulator.Pattern.Reader

/-!
# Values of event fields in directives

A directive can ask for a value of a field: a number, or a pattern that the value has to match.
Here it is only decided which texts are either.
-/

namespace ContractEmulator.FieldValue

/-- The text after a run of digits, of which there has to be one. -/
def afterDigits? (text : List Char) : Option (List Char) :=
  match text with
  | [] => none
  | c :: rest => if c.isDigit then some (rest.dropWhile Char.isDigit) else none

/-- An exponent, or nothing. -/
def isExponent : List Char → Bool
  | [] => true
  | mark :: text =>
    let digits :=
      match text with
      | '+' :: digits => digits
      | '-' :: digits => digits
      | digits => digits
    (mark == 'e' || mark == 'E') && afterDigits? digits == some []

/-- The fraction of a decimal number with its exponent. The digits on one side of the point may be
left out. -/
def isDecimal (text : List Char) : Bool :=
  match afterDigits? text with
  | some ('.' :: rest) => isExponent (rest.dropWhile Char.isDigit)
  | some rest => isExponent rest
  | none =>
    match text with
    | '.' :: rest => (afterDigits? rest).any isExponent
    | _ => false

/-- A number with a plus sign before it. A number without one is a pattern as well. -/
def isSigned : List Char → Bool
  | '+' :: text =>
    isDecimal text
      || ["inf", "infinity", "nan"].contains (String.ofList (text.map Char.toLower))
  | _ => false

/-- A pattern that can be searched for. -/
def isPattern (text : List Char) : Bool := (Pattern.ofText? text).any Pattern.isSearchable

/-- Whether a directive may ask for the value. -/
def isValue (text : List Char) : Bool := isSigned text || isPattern text

end ContractEmulator.FieldValue
