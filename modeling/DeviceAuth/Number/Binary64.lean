/-! Double-precision numbers, exactly. A finite double is a sign and a
magnitude `mantissa * 2 ^ exponent` in lowest form. Arithmetic is done on whole
numbers and rounded once, to the nearest double, with ties to the even
mantissa. -/

namespace DeviceAuth

def roundHalfEven (numerator denominator : Nat) : Nat :=
  let quotient := numerator / denominator
  let twice := 2 * (numerator % denominator)
  if twice < denominator then quotient
  else if twice > denominator then quotient + 1
  else quotient + quotient % 2

structure Magnitude where
  mantissa : Nat
  exponent : Int
deriving DecidableEq, Repr

namespace Magnitude

def zero : Magnitude := ⟨0, -1074⟩

def leastExponent : Int := -1074

def greatestExponent : Int := 971

def power (exponent : Int) : Nat := 1 <<< exponent.toNat

def leadingExponent (numerator denominator : Nat) : Int :=
  let guess : Int := numerator.log2 - denominator.log2
  if numerator * power (-guess) < denominator * power guess then guess - 1 else guess

def nearest? (numerator denominator : Nat) : Option Magnitude :=
  if numerator = 0 then some zero
  else
    let exponent := max (leadingExponent numerator denominator - 52) leastExponent
    let mantissa := roundHalfEven (numerator * power (-exponent)) (denominator * power exponent)
    let rounded : Magnitude :=
      if mantissa = power 53 then ⟨power 52, exponent + 1⟩ else ⟨mantissa, exponent⟩
    if rounded.exponent ≤ greatestExponent then some rounded else none

def multiply? (left right : Magnitude) : Option Magnitude :=
  let exponent := left.exponent + right.exponent
  nearest? (left.mantissa * right.mantissa * power exponent) (power (-exponent))

def divide? (left right : Magnitude) : Option Magnitude :=
  let exponent := left.exponent - right.exponent
  nearest? (left.mantissa * power exponent) (right.mantissa * power (-exponent))

def powerOfTen (exponent : Nat) : Magnitude := (nearest? (Nat.pow 10 exponent) 1).getD zero

/-! ## Decimal notation

The value of `significand * 10 ^ exponent` is computed in doubles: the
significand is rounded, then multiplied or divided by a rounded power of ten.
Powers beyond `10 ^ 308` are taken in several steps. The outcome may differ from
the nearest double in its last place. -/

def greatestPowerOfTen : Nat := 308

def scaleDown? (magnitude : Magnitude) (exponent : Int) : Option Magnitude :=
  if magnitude.mantissa = 0 then some magnitude
  else if (-greatestPowerOfTen : Int) ≤ exponent then
    divide? magnitude (powerOfTen (-exponent).toNat)
  else do
    let smaller ← divide? magnitude (powerOfTen greatestPowerOfTen)
    scaleDown? smaller (exponent + greatestPowerOfTen)
termination_by (-exponent).toNat
decreasing_by
  simp [greatestPowerOfTen] at *
  omega

def ofDecimal? (significand : Nat) (exponent : Int) : Option Magnitude := do
  let magnitude ← nearest? significand 1
  if 0 ≤ exponent then
    if magnitude.mantissa = 0 then pure magnitude
    else if exponent ≤ greatestPowerOfTen then
      multiply? magnitude (powerOfTen exponent.toNat)
    else none
  else scaleDown? magnitude exponent

end Magnitude

structure Binary64 where
  negative : Bool
  magnitude : Magnitude
deriving DecidableEq, Repr

open Magnitude (power) in
/-- The double that is equal to a single. Every single is a mantissa of at most 24
binary digits times a power of two, and so is the product of two doubles. -/
def doubleOf (single : Float32) : Float :=
  let bits := single.toBits.toNat
  let biased := bits / power 23 % power 8
  let fraction := bits % power 23
  let mantissa := if biased = 0 then fraction else power 23 + fraction
  let size :=
    if biased = 255 then (if fraction = 0 then 1.0 / 0.0 else 0.0 / 0.0)
    else mantissa.toUInt64.toFloat * Float.ofBits ((873 + max biased 1) * power 52).toUInt64
  if bits < power 31 then size else -size

example : Magnitude.nearest? 1 1 = some ⟨2 ^ 52, -52⟩ := by decide +kernel
example : Magnitude.nearest? 1 (2 ^ 1075) = some Magnitude.zero := by decide +kernel
example : Magnitude.nearest? (2 ^ 1024) 1 = none := by decide +kernel
example : (doubleOf 0.25).toBits = (0.25 : Float).toBits := by decide +kernel

end DeviceAuth
