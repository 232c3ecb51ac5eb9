import DeviceAuth.Panic
import DeviceAuth.Settings
import DeviceAuth.Text.Octets

/-! Delays between attempts. A delay doubles from attempt to attempt up to a cap,
and is then made somewhat longer or shorter at random, so that many devices do
not come back at the same moment. -/

namespace DeviceAuth

structure Backoff where
  base : Span
  cap : Span
  jitter : Float32
  attempts : Nat

namespace Backoff

def greatestJitter : Float32 := 0.99

/-- The jitter brought into its bounds. What is not a number stays. -/
def boundJitter (jitter : Float32) : Float32 :=
  if jitter < 0 then 0 else if jitter > greatestJitter then greatestJitter else jitter

def create (base cap : Span) (jitter : Float32) : Backoff :=
  ⟨base, if cap < base then base else cap, boundJitter jitter, 0⟩

def ofSettings (settings : Settings) : Backoff :=
  create settings.backoffBase settings.backoffCap settings.backoffJitter

def greatestDoublings : Nat := 31

def nominal (backoff : Backoff) (attempt : Nat) : Span :=
  ⟨min (backoff.base.nanoseconds * (1 <<< min attempt greatestDoublings))
    backoff.cap.nanoseconds⟩

def greatestAttempts : Nat := UInt32.size - 1

/-- A delay made longer or shorter. The random word selects the factor between
`1 - jitter` and `1 + jitter`. -/
def spread (delay : Span) (jitter : Float32) (random : UInt32) : Except Panic Span :=
  let unit := random.toUInt64.toFloat / 4294967295.0
  let factor := 1.0 + doubleOf jitter * (2.0 * unit - 1.0)
  match Span.ofFloat? (delay.toFloat * (if factor > 0.0 then factor else 0.0)) with
  | some longer => .ok longer
  | none => .error .span

def next (backoff : Backoff) (random : Octets) : Except Panic Span × Backoff × Octets :=
  let (word, random) := Octets.drawWord random
  (spread (backoff.nominal backoff.attempts) backoff.jitter word,
    { backoff with attempts := min (backoff.attempts + 1) greatestAttempts }, random)

def reset (backoff : Backoff) : Backoff := { backoff with attempts := 0 }

end Backoff

end DeviceAuth
