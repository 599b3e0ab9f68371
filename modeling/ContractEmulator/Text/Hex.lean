/-!
# Hexadecimal text

Lowercase base-sixteen digits: two for a byte, as many as needed for a code point.
-/

namespace ContractEmulator.Hex

/-- The two digits of a byte, the high one first. -/
def ofByte (b : UInt8) : List Char :=
  [Nat.digitChar (b.toNat / 16), Nat.digitChar (b.toNat % 16)]

/-- A byte string, two digits to a byte. -/
def ofBytes (bytes : List UInt8) : String :=
  String.ofList (bytes.flatMap ofByte)

/-- The value of one digit, in either case. -/
def digit? (c : Char) : Option Nat :=
  if '0' ≤ c ∧ c ≤ '9' then some (c.toNat - '0'.toNat)
  else if 'a' ≤ c ∧ c ≤ 'f' then some (c.toNat - 'a'.toNat + 10)
  else if 'A' ≤ c ∧ c ≤ 'F' then some (c.toNat - 'A'.toNat + 10)
  else none

/-- Reads a byte string back; `none` for a digit that is none, or for half a byte. -/
def toBytes? : List Char → Option (List UInt8)
  | [] => some []
  | [_] => none
  | high :: low :: rest => do
    let h ← digit? high
    let l ← digit? low
    let bytes ← toBytes? rest
    return UInt8.ofNat (16 * h + l) :: bytes

end ContractEmulator.Hex
