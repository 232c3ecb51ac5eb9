import DeviceAuth.Number.Binary64
import DeviceAuth.Panic

/-! Spans of time, in whole nanoseconds. A span has less than `2 ^ 64` seconds;
what does not fit is refused by those who compute it. Moments are spans since an
arbitrary beginning. -/

namespace DeviceAuth

structure Span where
  nanoseconds : Nat
deriving DecidableEq, Repr

namespace Span

def perSecond : Nat := 1000000000

def perMillisecond : Nat := 1000000

/-- The longest span: one nanosecond less than `2 ^ 64` seconds. -/
def longest : Span := ⟨UInt64.size * perSecond - 1⟩

/-- The latest moment: one nanosecond less than `2 ^ 63` seconds after the beginning. -/
def latest : Span := ⟨UInt64.size / 2 * perSecond - 1⟩

instance : LE Span := ⟨fun left right => left.nanoseconds ≤ right.nanoseconds⟩
instance : LT Span := ⟨fun left right => left.nanoseconds < right.nanoseconds⟩

instance (left right : Span) : Decidable (left ≤ right) :=
  inferInstanceAs (Decidable (left.nanoseconds ≤ right.nanoseconds))

instance (left right : Span) : Decidable (left < right) :=
  inferInstanceAs (Decidable (left.nanoseconds < right.nanoseconds))

instance : Add Span := ⟨fun left right => ⟨left.nanoseconds + right.nanoseconds⟩⟩

def zero : Span := ⟨0⟩

def after (start delay : Span) : Except Panic Span :=
  if start + delay ≤ latest then .ok (start + delay) else .error .moment

def ofSeconds (seconds : Nat) : Span := ⟨seconds * perSecond⟩

def ofMilliseconds (milliseconds : Nat) : Span := ⟨milliseconds * perMillisecond⟩

def ofParts (seconds nanoseconds : Nat) : Span := ⟨seconds * perSecond + nanoseconds⟩

def seconds (span : Span) : Nat := span.nanoseconds / perSecond

def subsecond (span : Span) : Nat := span.nanoseconds % perSecond

def millisecondsUp (span : Span) : Nat :=
  span.nanoseconds / perMillisecond + if span.nanoseconds % perMillisecond = 0 then 0 else 1

def secondsWord (span : Span) : Nat := min span.seconds (UInt32.size - 1)

/-! ## Seconds as doubles -/

def toFloat (span : Span) : Float :=
  span.seconds.toUInt64.toFloat + span.subsecond.toUInt64.toFloat / perSecond.toUInt64.toFloat

open Magnitude (power) in
/-- The span nearest to a number of seconds, with ties to even. Numbers that are
not finite, less than zero or too large have none. -/
def ofFloat? (seconds : Float) : Option Span :=
  if !seconds.isFinite || seconds < 0 then none
  else
    let bits := seconds.toBits.toNat % power 63
    let fraction := bits % power 52
    let biased := bits / power 52
    let mantissa := if biased = 0 then fraction else power 52 + fraction
    let exponent : Int := (max biased 1 : Nat) - 1075
    let span : Span :=
      ⟨roundHalfEven (mantissa * perSecond * power exponent) (power (-exponent))⟩
    if span ≤ longest then some span else none

end Span

end DeviceAuth
