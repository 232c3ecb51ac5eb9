import DeviceAuth.Failure
import DeviceAuth.Text.Octets

/-! Backends: what a store can be built on. A backend reads, writes and removes
single values, and makes the writes of a namespace durable when asked to. Any of
these calls may fail. -/

namespace DeviceAuth

class Backend (σ : Type) where
  get : Location → σ → Except StoreFailure (Option Octets) × σ
  set : Location → Octets → σ → Except StoreFailure Unit × σ
  remove : Location → σ → Except StoreFailure Unit × σ
  commit : String → σ → Except StoreFailure Unit × σ

namespace Backend

def greatestKey : Nat := 15

def greatestValue : Nat := 4000

def refusal? (location : Location) (value : Octets) : Option String :=
  let keySize := location.key.utf8ByteSize
  if keySize = 0 ∨ greatestKey < keySize then
    some ("key length " ++ Decimal.text keySize ++ " outside 1..=" ++ Decimal.text greatestKey)
  else if greatestValue < value.length then
    some ("value length " ++ Decimal.text value.length ++ " exceeds " ++
      Decimal.text greatestValue)
  else none

theorem refusal?_eq_none_iff (location : Location) (value : Octets) :
    refusal? location value = none ↔
      location.key.utf8ByteSize ≠ 0 ∧ location.key.utf8ByteSize ≤ greatestKey ∧
        value.length ≤ greatestValue := by
  by_cases badKey :
      location.key.utf8ByteSize = 0 ∨ greatestKey < location.key.utf8ByteSize
  · simp only [refusal?, if_pos badKey, reduceCtorEq, false_iff]
    omega
  · by_cases badValue : greatestValue < value.length
    · simp only [refusal?, if_neg badKey, if_pos badValue, reduceCtorEq, false_iff]
      omega
    · simp only [refusal?, if_neg badKey, if_neg badValue, true_iff]
      omega

def wholeSpace (space : String) : Location := ⟨space, "*"⟩

end Backend

end DeviceAuth
