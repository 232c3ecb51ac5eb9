import DeviceAuth.Number.Binary64
import DeviceAuth.Number.Decimal

/-! The shortest decimal digits of a double. Of all decimal numbers that lie
nearer to the double than to any other (the ends of that interval count for an
even mantissa), those with the fewest digits are taken, and of these the one
nearest to the double. -/

namespace DeviceAuth

namespace Shortest

structure Digits where
  significand : Nat
  exponent : Int
deriving DecidableEq, Repr

def quotient (number : Nat) (two ten : Int) : Nat × Nat :=
  (number * Magnitude.power two * Nat.pow 10 ten.toNat,
    Magnitude.power (-two) * Nat.pow 10 (-ten).toNat)

def less (left right : Nat × Nat) : Bool := left.1 * right.2 < right.1 * left.2

/-- Four times the lower end of the interval, in units of `2 ^ exponent`. The
gap below a power of two is half as wide. -/
def lowerEnd (magnitude : Magnitude) : Nat :=
  if magnitude.mantissa = Magnitude.power 52 ∧ magnitude.exponent ≠ Magnitude.leastExponent then
    4 * magnitude.mantissa - 1
  else 4 * magnitude.mantissa - 2

def upperEnd (magnitude : Magnitude) : Nat := 4 * magnitude.mantissa + 2

def readsBack (magnitude : Magnitude) (candidate : Digits) : Bool :=
  let point := quotient (4 * candidate.significand) 0 candidate.exponent
  let lower := quotient (lowerEnd magnitude) magnitude.exponent 0
  let upper := quotient (upperEnd magnitude) magnitude.exponent 0
  if magnitude.mantissa % 2 = 0 then !(less point lower) && !(less upper point)
  else less lower point && less point upper

def digitsBefore (magnitude : Magnitude) : Nat :=
  let (numerator, denominator) := quotient magnitude.mantissa magnitude.exponent 0
  (Decimal.digits (numerator / denominator)).length

def zerosAfter (numerator denominator : Nat) : Nat → Nat → Nat
  | 0, count => count
  | room + 1, count =>
      if denominator ≤ numerator * 10 then count
      else zerosAfter (numerator * 10) denominator room (count + 1)

def point (magnitude : Magnitude) : Int :=
  let (numerator, denominator) := quotient magnitude.mantissa magnitude.exponent 0
  if denominator ≤ numerator then digitsBefore magnitude
  else -(zerosAfter numerator denominator 400 0 : Int)

/-- The number on the grid of `count` digits that is nearest to the double, of
those next to it that read back. -/
def onGrid? (magnitude : Magnitude) (count : Nat) : Option Digits :=
  let exponent := point magnitude - count
  let (numerator, denominator) := quotient magnitude.mantissa magnitude.exponent (-exponent)
  let below : Digits := ⟨numerator / denominator, exponent⟩
  let above : Digits := ⟨numerator / denominator + 1, exponent⟩
  match readsBack magnitude below, readsBack magnitude above with
  | true, true =>
      if roundHalfEven numerator denominator = below.significand then some below else some above
  | true, false => some below
  | false, true => some above
  | false, false => none

def search (magnitude : Magnitude) : Nat → Nat → Digits
  | 0, _ => ⟨0, 0⟩
  | room + 1, count =>
      match onGrid? magnitude count with
      | some digits => digits
      | none => search magnitude room (count + 1)

def dropZeros (digits : List Nat) : List Nat :=
  (digits.reverse.dropWhile (· == 0)).reverse

def digits (magnitude : Magnitude) : List Nat × Int :=
  let found := search magnitude 17 1
  let all := Decimal.digits found.significand
  (dropZeros all, all.length + found.exponent)

end Shortest

/-! ## Notation

Numbers from a hundred-thousandth up to (not including) ten to the sixteenth
are written positionally, with at least one digit after the point; all others
with one digit before the point and a signed exponent. -/

namespace Binary64

private def zeros (count : Nat) : List Char := List.replicate count '0'

def layOut (digits : List Char) (point : Int) : List Char :=
  let size : Int := digits.length
  if size ≤ point ∧ point ≤ 16 then digits ++ zeros (point - size).toNat ++ ['.', '0']
  else if 0 < point ∧ point ≤ 16 then
    digits.take point.toNat ++ '.' :: digits.drop point.toNat
  else if -5 < point ∧ point ≤ 0 then '0' :: '.' :: zeros (-point).toNat ++ digits
  else
    let fraction := if digits.length ≤ 1 then [] else '.' :: digits.drop 1
    let exponent := point - 1
    let sign := if exponent < 0 then '-' else '+'
    digits.take 1 ++ fraction ++ 'e' :: sign :: Decimal.characters exponent.natAbs

def characters (number : Binary64) : List Char :=
  let unsigned :=
    if number.magnitude.mantissa = 0 then ['0', '.', '0']
    else
      let (digits, point) := Shortest.digits number.magnitude
      layOut (digits.map Decimal.digitCharacter) point
  if number.negative then '-' :: unsigned else unsigned

end Binary64

end DeviceAuth
