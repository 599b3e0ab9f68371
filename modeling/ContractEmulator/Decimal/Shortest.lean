/-!
# Shortest decimals

The decimal with the fewest digits that still rounds to a given binary fraction.

* `Binary64.parts` reads a bit pattern as `mantissa · 2 ^ exponent`.
* `Binary64.shortest` walks decimal grids from coarse to fine. On each grid only the two
  neighbours of the value can lie among the numbers that round to it, so the first grid with a
  hit has the fewest digits; of two hits the nearer one wins, and a tie goes to the even one.

All comparisons are between natural numbers.
-/

namespace ContractEmulator

/-- A number `significand · 10 ^ exponent`. -/
structure Decimal where
  significand : Nat
  exponent : Int
  deriving DecidableEq, Repr

namespace Decimal

/-- The same number without trailing zeros; at most `fuel` of them are dropped. -/
def dropZeros : Nat → Decimal → Decimal
  | 0, d => d
  | fuel + 1, d =>
    if d.significand ≠ 0 ∧ d.significand % 10 = 0 then
      dropZeros fuel ⟨d.significand / 10, d.exponent + 1⟩
    else d

/-- The decimal digits of the significand. -/
def digits (d : Decimal) : List Char := Nat.toDigits 10 d.significand

end Decimal

/-- How positional and exponent notation of a decimal are told apart. The point stands after the
first `point` digits: the notation is positional for `minPoint ≤ point ≤ maxPoint`. -/
structure FloatFormat where
  minPoint : Int
  maxPoint : Int

namespace FloatFormat

/-- A fraction with at least one digit on each side of the point, or one digit before the point
and a signed exponent. -/
def layout (format : FloatFormat) (d : Decimal) : List Char :=
  let digits := d.digits
  let point : Int := digits.length + d.exponent
  if format.minPoint ≤ point ∧ point ≤ format.maxPoint then
    if 0 ≤ d.exponent then
      digits ++ List.replicate d.exponent.toNat '0' ++ ['.', '0']
    else if 0 < point then
      digits.take point.toNat ++ '.' :: digits.drop point.toNat
    else
      ['0', '.'] ++ List.replicate (-point).toNat '0' ++ digits
  else
    let fraction := if digits.length ≤ 1 then [] else '.' :: digits.drop 1
    let power := point - 1
    let sign := if power < 0 then '-' else '+'
    digits.take 1 ++ fraction ++ 'e' :: sign :: Nat.toDigits 10 power.natAbs

end FloatFormat

namespace Binary64

/-- A finite number `mantissa · 2 ^ exponent`. Below the least mantissa of its binade the spacing
of the representable numbers is halved; `narrow` says that the number is that least one. -/
structure Parts where
  negative : Bool
  mantissa : Nat
  exponent : Int
  narrow : Bool

/-- The leading bit of a mantissa, which the pattern leaves out. -/
def hidden : Nat := 0x10000000000000

/-- The number with the given IEEE 754 binary64 pattern; `none` for infinities and NaN. -/
def parts (bits : UInt64) : Option Parts :=
  let n := bits.toNat
  let negative := n.testBit 63
  let biased : Nat := (n >>> 52) % 0x800
  let fraction : Nat := n % hidden
  if biased = 2047 then none
  else if biased = 0 then some ⟨negative, fraction, -1074, false⟩
  else some ⟨negative, hidden + fraction, (biased : Int) - 1075, fraction = 0 ∧ 1 < biased⟩

/-- `base ^ e` as a numerator and a denominator. -/
def power (base : Nat) (e : Int) : Nat × Nat :=
  if 0 ≤ e then (Nat.pow base e.toNat, 1) else (1, Nat.pow base (-e).toNat)

/-- The exponent of the leading decimal digit of a positive number. -/
def leading (p : Parts) : Int :=
  let (num, den) := power 2 p.exponent
  (Nat.toDigits 10 (p.mantissa * num * Nat.pow 10 400 / den)).length - 401

/-- The best point of the grid of step `10 ^ k` among the numbers that round to `p`, if there is
one. In quarters of the last binary place the value is `4 · mantissa`, and those numbers reach
from two quarters below it (one quarter if `narrow`) to two above, ends included exactly for an
even mantissa. -/
def onGrid (p : Parts) (k : Int) : Option Decimal :=
  let (binNum, binDen) := power 2 (p.exponent - 2)
  let (decNum, decDen) := power 10 k
  let value := 4 * p.mantissa * binNum * decDen
  let low := (4 * p.mantissa - if p.narrow then 1 else 2) * binNum * decDen
  let high := (4 * p.mantissa + 2) * binNum * decDen
  let step := decNum * binDen
  let hit (d : Nat) : Bool :=
    if p.mantissa % 2 = 0 then low ≤ d * step && d * step ≤ high
    else low < d * step && d * step < high
  let below := value / step
  let toBelow := value - below * step
  let toAbove := (below + 1) * step - value
  let preferBelow := toBelow < toAbove || (toBelow == toAbove && below % 2 == 0)
  if hit below && (preferBelow || !hit (below + 1)) then some ⟨below, k⟩
  else if hit (below + 1) then some ⟨below + 1, k⟩
  else none

/-- The first hit on the grids of step `10 ^ k`, `10 ^ (k - 1)`, and so on. -/
def search (p : Parts) : Nat → Int → Decimal
  | 0, k => (onGrid p k).getD ⟨0, 0⟩
  | fuel + 1, k => (onGrid p k).getD (search p fuel (k - 1))

/-- The shortest decimal that rounds to the magnitude of `p`. Seventeen digits always suffice. -/
def shortest (p : Parts) : Decimal :=
  if p.mantissa = 0 then ⟨0, 0⟩
  else (search p 17 (leading p)).dropZeros 18

/-- The text of the number with the given pattern; `none` for infinities and NaN. -/
def render? (format : FloatFormat) (bits : UInt64) : Option (List Char) := do
  let p ← parts bits
  let text := format.layout (shortest p)
  return if p.negative then '-' :: text else text

end Binary64

end ContractEmulator
