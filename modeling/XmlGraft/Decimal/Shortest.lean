/-!
# Shortest decimals — the fewest digits that read back

A finite binary value stands for every real number that rounds to it. Among the decimals in that
interval this module finds one with the fewest significant digits, and among those the nearest to
the value; of two equally near ones, the one whose last digit is even.

The search is exact: for one digit, two digits, and so on, it tests the two neighbours of the value
on the grid of decimals with that many digits. If any point of a grid lies in the interval then so
does one of these two, and seventeen digits always suffice.
-/

namespace XmlGraft.Decimal

/-- A positive binary value `mantissa · 2 ^ exponent`, with the interval of reals that round to it:
half a unit above, and half a unit below or, at the foot of a binade, a quarter. -/
structure Binary where
  mantissa : Nat
  exponent : Int
  narrowBelow : Bool
deriving DecidableEq, Repr

/-- A decimal `0.d₁d₂… · 10 ^ point`, its digits given as one number. -/
structure Digits where
  significand : Nat
  point : Int
deriving DecidableEq, Repr

/-- How many decimal digits a number has; none for zero. -/
def digitCount (n : Nat) : Nat := if n = 0 then 0 else (Nat.toDigits 10 n).length

namespace Binary

/-- The factor that the fourths of a unit are multiplied by, as numerator and denominator. -/
def quarterUnit (b : Binary) : Nat × Nat :=
  (Nat.pow 2 (b.exponent - 2).toNat, Nat.pow 2 (2 - b.exponent).toNat)

/-- The point of the leading decimal digit: `10 ^ (point - 1) ≤ value < 10 ^ point`. -/
def point (b : Binary) : Int :=
  let num := 4 * b.mantissa * b.quarterUnit.1
  let den := b.quarterUnit.2
  if den ≤ num then digitCount (num / den) else 1 - digitCount ((den - 1) / num)

/-- The decimal with a given number of digits that stands for the value, if there is one. -/
def onGrid? (b : Binary) (count : Nat) : Option Digits :=
  let (unit, den) := b.quarterUnit
  let step := b.point - count
  let up := Nat.pow 10 step.toNat
  let down := Nat.pow 10 (-step).toNat
  let value := 4 * b.mantissa * unit * down
  let low := (4 * b.mantissa - (if b.narrowBelow then 1 else 2)) * unit * down
  let high := (4 * b.mantissa + 2) * unit * down
  let cell := up * den
  let inside := fun candidate =>
    let scaled := candidate * cell
    if b.mantissa % 2 = 0 then decide (low ≤ scaled ∧ scaled ≤ high)
    else decide (low < scaled ∧ scaled < high)
  let below : Nat := value / cell
  let nearer := fun candidate : Nat => some (⟨candidate, b.point⟩ : Digits)
  let gapBelow := value - below * cell
  let gapAbove := (below + 1) * cell - value
  match inside below, inside (below + 1) with
  | true, true =>
    if gapBelow < gapAbove || (gapBelow == gapAbove && below % 2 == 0) then nearer below
    else nearer (below + 1)
  | true, false => nearer below
  | false, true => nearer (below + 1)
  | false, false => none

/-- The digits of the shortest decimal that reads back as the value. -/
def shortest (b : Binary) : Digits :=
  ((List.range 17).findSome? fun i =>
    (b.onGrid? (i + 1)).map fun found =>
      -- rounding up may reach the next power of ten, which has one digit more
      if found.significand = Nat.pow 10 (i + 1) then ⟨1, found.point + 1⟩ else found).getD ⟨0, 1⟩

end Binary

/-- What the sixty-four bits of a floating-point number denote. -/
inductive Reading
  | nan
  | infinite (negative : Bool)
  | zero (negative : Bool)
  | finite (negative : Bool) (magnitude : Binary)
deriving DecidableEq, Repr

/-- The reading of a floating-point number: one bit of sign, eleven of exponent, fifty-two of
fraction. -/
def Reading.ofFloat (x : Float) : Reading :=
  let bits : Nat := x.toBits.toNat
  let negative := decide (Nat.pow 2 63 ≤ bits)
  let exponent : Nat := bits / Nat.pow 2 52 % Nat.pow 2 11
  let fraction : Nat := bits % Nat.pow 2 52
  if exponent = 2047 then
    if fraction = 0 then .infinite negative else .nan
  else if exponent = 0 then
    if fraction = 0 then .zero negative
    else .finite negative ⟨fraction, -1074, false⟩
  else
    let mantissa := Nat.pow 2 52 + fraction
    .finite negative ⟨mantissa, (exponent : Int) - 1075, fraction = 0 && 1 < exponent⟩

end XmlGraft.Decimal
