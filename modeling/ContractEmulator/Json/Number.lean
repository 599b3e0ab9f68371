import ContractEmulator.Json.Basic

/-!
# Number literals

* `NumberLiteral.scan` reads a literal off the front of a text: no sign but `-`, no leading zero,
  digits on both sides of a point and after an exponent mark.
* `NumberLiteral.value?` is the number it stands for. A literal of digits only is an integer if
  it lies from `-2 ^ 63` to `2 ^ 64 - 1`; `-0` and every other literal is a binary64 fraction, and
  one beyond the largest of these has no value.

The significand of a fraction is cut where it no longer fits into 64 bits, then rounded, then
scaled by a power of ten.
-/

namespace ContractEmulator

/-- The parts of a number literal, digits as written. -/
structure NumberLiteral where
  negative : Bool
  whole : List Char
  fraction : Option (List Char)
  /-- Whether the exponent is negative, and its digits. -/
  exponent : Option (Bool × List Char)
  deriving DecidableEq, Repr

namespace NumberLiteral

/-- A run of digits at the front of a text; `none` if there is no digit. -/
def scanDigits (text : List Char) : Option (List Char × List Char) :=
  let digits := text.takeWhile Char.isDigit
  if digits.isEmpty then none else some (digits, text.dropWhile Char.isDigit)

/-- A digit run that does not start with a superfluous zero. -/
def scanWhole (text : List Char) : Option (List Char × List Char) :=
  match scanDigits text with
  | some ('0' :: _ :: _, _) => none
  | found => found

/-- The digits after a point, if a point follows. -/
def scanFraction : List Char → Option (Option (List Char) × List Char)
  | '.' :: text => (scanDigits text).map fun (digits, rest) => (some digits, rest)
  | text => some (none, text)

/-- The sign and the digits of an exponent, after its mark. -/
def scanPower : List Char → Option ((Bool × List Char) × List Char)
  | '+' :: text => (scanDigits text).map fun (digits, rest) => ((false, digits), rest)
  | '-' :: text => (scanDigits text).map fun (digits, rest) => ((true, digits), rest)
  | text => (scanDigits text).map fun (digits, rest) => ((false, digits), rest)

/-- The exponent, if its mark follows. -/
def scanExponent : List Char → Option (Option (Bool × List Char) × List Char)
  | 'e' :: text => (scanPower text).map fun (power, rest) => (some power, rest)
  | 'E' :: text => (scanPower text).map fun (power, rest) => (some power, rest)
  | text => some (none, text)

/-- A literal whose sign was read before. -/
def scanUnsigned (negative : Bool) (text : List Char) : Option (NumberLiteral × List Char) := do
  let (whole, text) ← scanWhole text
  let (fraction, text) ← scanFraction text
  let (exponent, text) ← scanExponent text
  return (⟨negative, whole, fraction, exponent⟩, text)

/-- A literal at the front of a text, and the text after it. -/
def scan : List Char → Option (NumberLiteral × List Char)
  | '-' :: text => scanUnsigned true text
  | text => scanUnsigned false text

/-- The value of a digit. -/
def digit (c : Char) : Nat := c.toNat - '0'.toNat

/-- The number written by some digits. -/
def natOf (digits : List Char) : Nat := digits.foldl (fun n c => 10 * n + digit c) 0

/-- Appends digits to a significand while it stays below `2 ^ 64`; the digits left over follow. -/
def gather (significand : Nat) : List Char → Nat × List Char
  | [] => (significand, [])
  | c :: digits =>
    let next := 10 * significand + digit c
    if next < 0x10000000000000000 then gather next digits else (significand, c :: digits)

/-- The binary64 number nearest to `10 ^ e`. -/
def tenTo (e : Nat) : Float := Float.ofScientific 1 false e

/-- `f` times `10 ^ e`, one power of at most `10 ^ 308` at a time; `none` for a result that is too
large. -/
def scale (f : Float) (e : Int) : Option Float :=
  if _h : e.natAbs ≤ 308 then
    if 0 ≤ e then
      let product := f * tenTo e.natAbs
      if product.isInf then none else some product
    else some (f / tenTo e.natAbs)
  else if f == 0 then some f
  else if 0 ≤ e then none
  else scale (f / tenTo 308) (e + 308)
  termination_by e.natAbs

/-- The exponent as a number; `none` if it is not below `2 ^ 31`. -/
def power? : Option (Bool × List Char) → Option Int
  | none => some 0
  | some (negative, digits) =>
    let n := natOf digits
    if n < 0x80000000 then some (if negative then -(n : Int) else n) else none

/-- The pattern of a fraction with the given magnitude. -/
def signed (negative : Bool) (magnitude : Float) : Json :=
  .float (if negative then -magnitude else magnitude).toBits

/-- The fraction that a literal stands for. -/
def fractionValue? (literal : NumberLiteral) : Option Json :=
  let (whole, beyond) := gather 0 literal.whole
  let decimals := literal.fraction.getD []
  let (significand, unused) := gather whole decimals
  let shift : Int := (beyond.length : Int) + unused.length - decimals.length
  match power? literal.exponent with
  | some power =>
    (scale (UInt64.ofNat significand).toFloat (shift + power)).map (signed literal.negative)
  | none =>
    match literal.exponent with
    | some (false, _) => if significand = 0 then some (signed literal.negative 0) else none
    | _ => some (signed literal.negative 0)

/-- The number that a literal stands for; `none` if it is too large. -/
def value? (literal : NumberLiteral) : Option Json :=
  let n := natOf literal.whole
  if literal.fraction.isNone ∧ literal.exponent.isNone then
    if literal.negative then
      if 0 < n ∧ n ≤ 0x8000000000000000 then some (.int (-(n : Int))) else literal.fractionValue?
    else if n < 0x10000000000000000 then some (.int n)
    else literal.fractionValue?
  else literal.fractionValue?

/-! ## Progress -/

theorem scanDigits_length {text digits rest : List Char}
    (h : scanDigits text = some (digits, rest)) : rest.length < text.length := by
  unfold scanDigits at h
  simp only at h
  split at h
  · cases h
  · cases h
    rename_i hd
    have hlen := congrArg List.length (List.takeWhile_append_dropWhile (p := Char.isDigit) (l := text))
    rw [List.length_append] at hlen
    have : 0 < (text.takeWhile Char.isDigit).length :=
      List.length_pos_iff.2 (by simpa using hd)
    omega

theorem scanWhole_length {text digits rest : List Char}
    (h : scanWhole text = some (digits, rest)) : rest.length < text.length := by
  unfold scanWhole at h
  split at h
  · cases h
  · exact scanDigits_length h

theorem scanFraction_length {text rest : List Char} {fraction : Option (List Char)}
    (h : scanFraction text = some (fraction, rest)) : rest.length ≤ text.length := by
  unfold scanFraction at h
  split at h
  · obtain ⟨⟨digits, r⟩, hd, he⟩ := Option.map_eq_some_iff.1 h
    have := scanDigits_length hd
    cases he
    simp only [List.length_cons]
    omega
  · cases h
    exact Nat.le_refl _

theorem scanPower_length {text rest : List Char} {power : Bool × List Char}
    (h : scanPower text = some (power, rest)) : rest.length ≤ text.length := by
  unfold scanPower at h
  split at h <;>
  · obtain ⟨⟨digits, r⟩, hd, he⟩ := Option.map_eq_some_iff.1 h
    have := scanDigits_length hd
    grind

theorem scanExponent_length {text rest : List Char} {exponent : Option (Bool × List Char)}
    (h : scanExponent text = some (exponent, rest)) : rest.length ≤ text.length := by
  unfold scanExponent at h
  split at h
  · obtain ⟨⟨power, r⟩, hd, he⟩ := Option.map_eq_some_iff.1 h
    have := scanPower_length hd
    cases he
    simp only [List.length_cons]
    omega
  · obtain ⟨⟨power, r⟩, hd, he⟩ := Option.map_eq_some_iff.1 h
    have := scanPower_length hd
    cases he
    simp only [List.length_cons]
    omega
  · cases h
    exact Nat.le_refl _

theorem scanUnsigned_length {negative : Bool} {text rest : List Char} {literal : NumberLiteral}
    (h : scanUnsigned negative text = some (literal, rest)) : rest.length < text.length := by
  simp only [scanUnsigned, Option.bind_eq_bind, Option.bind_eq_some_iff, Option.pure_def,
    Option.some.injEq, Prod.mk.injEq] at h
  obtain ⟨⟨_, _⟩, hw, ⟨_, _⟩, hf, ⟨_, _⟩, he, -, rfl⟩ := h
  exact Nat.lt_of_le_of_lt
    (Nat.le_trans (scanExponent_length he) (scanFraction_length hf)) (scanWhole_length hw)

/-- A literal takes at least one character. -/
theorem scan_length {text rest : List Char} {literal : NumberLiteral}
    (h : scan text = some (literal, rest)) : rest.length < text.length := by
  unfold scan at h
  split at h
  · have := scanUnsigned_length h
    simp only [List.length_cons]
    omega
  · exact scanUnsigned_length h

end NumberLiteral

end ContractEmulator
