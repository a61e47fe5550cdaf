import XmlGraft.Decimal.Shortest

/-!
# Number layout — how the digits of a number are laid out

Which digits a floating-point number has is settled by `Decimal.Binary.shortest`. What is left is
layout, and all of it is in one record: which exponents are written positionally, and how wide an
exponent is at least. A whole number keeps one zero after its point.
-/

namespace XmlGraft.Decimal

/-- The layout decisions for floating-point numbers. -/
structure Layout where
  /-- The least decimal exponent that is written positionally. -/
  least : Int
  /-- The first decimal exponent above those that are written positionally. -/
  limit : Int
  /-- The least number of digits in a written exponent. -/
  exponentWidth : Nat

/-- Numbers from `0.0001` up to below `10 ^ 16` are written positionally; an exponent has a sign and
at least two digits. -/
def plainLayout : Layout := ⟨-4, 16, 2⟩

/-- The decimal digits of a number. -/
def decimalDigits (n : Nat) : List Char := Nat.toDigits 10 n

/-- A decimal with its point among, before or after the digits. -/
def positional (d : Digits) : List Char :=
  let digits := decimalDigits d.significand
  if d.point ≤ 0 then '0' :: '.' :: List.replicate (-d.point).toNat '0' ++ digits
  else
    let whole := d.point.toNat
    if digits.length ≤ whole then
      digits ++ List.replicate (whole - digits.length) '0' ++ ['.', '0']
    else digits.take whole ++ '.' :: digits.drop whole

/-- A decimal with one digit before the point and a power of ten. -/
def exponential (width : Nat) (d : Digits) : List Char :=
  let mantissa := match decimalDigits d.significand with
    | [] => []
    | [digit] => [digit]
    | digit :: rest => digit :: '.' :: rest
  let exponent := d.point - 1
  let digits := decimalDigits exponent.natAbs
  mantissa ++ 'e' :: (if exponent < 0 then '-' else '+') ::
    List.replicate (width - digits.length) '0' ++ digits

/-- The text of a floating-point number in a layout. -/
def Layout.float (n : Layout) (x : Float) : String :=
  let signed := fun (negative : Bool) (text : List Char) =>
    String.ofList (if negative then '-' :: text else text)
  match Reading.ofFloat x with
  | .nan => "nan"
  | .infinite negative => signed negative ['i', 'n', 'f']
  | .zero negative => signed negative ['0', '.', '0']
  | .finite negative magnitude =>
    let d := magnitude.shortest
    signed negative <|
      if n.least ≤ d.point - 1 && d.point - 1 < n.limit then positional d
      else exponential n.exponentWidth d

/-- The largest count of decimal digits that an integer may have and still be written or read. -/
def digitLimit : Nat := 4300

/-- The first number that has more digits than are ever written. -/
def integerLimit : Nat := Nat.pow 10 digitLimit

/-- The text of an integer in decimal, unless it has more digits than are ever written. -/
def integer? (i : Int) : Option String :=
  if i.natAbs < integerLimit then
    some (String.ofList (if i < 0 then '-' :: decimalDigits i.natAbs else decimalDigits i.natAbs))
  else none

end XmlGraft.Decimal
