/-! Whole numbers in decimal notation. A number is written with the fewest
digits, and a list of digits is read by Horner's rule, so reading undoes
writing. -/

namespace DeviceAuth

namespace Decimal

def digits (number : Nat) : List Nat :=
  if number < 10 then [number] else digits (number / 10) ++ [number % 10]

def value (digits : List Nat) : Nat :=
  digits.foldl (fun number digit => 10 * number + digit) 0

theorem value_append_singleton (front : List Nat) (last : Nat) :
    value (front ++ [last]) = 10 * value front + last := by
  simp [value]

theorem value_digits (number : Nat) : value (digits number) = number := by
  induction number using digits.induct with
  | case1 number small =>
      rw [digits, if_pos small]
      simp [value]
  | case2 number large induction =>
      rw [digits, if_neg large, value_append_singleton, induction]
      omega

theorem digits_ne_nil (number : Nat) : digits number ≠ [] := by
  rw [digits]
  split <;> simp

theorem lt_ten_of_mem_digits {number digit : Nat} (member : digit ∈ digits number) :
    digit < 10 := by
  induction number using digits.induct with
  | case1 number small =>
      rw [digits, if_pos small, List.mem_singleton] at member
      omega
  | case2 number large induction =>
      rw [digits, if_neg large, List.mem_append, List.mem_singleton] at member
      rcases member with member | rfl
      · exact induction member
      · omega

theorem head_digits_ne_zero {number : Nat} (positive : 0 < number) :
    (digits number).head? ≠ some 0 := by
  induction number using digits.induct with
  | case1 number small =>
      rw [digits, if_pos small]
      simp
      omega
  | case2 number large induction =>
      have front := induction (by omega)
      rw [digits, if_neg large]
      cases equal : digits (number / 10) with
      | nil => exact absurd equal (digits_ne_nil _)
      | cons first rest => simpa [equal] using front

def digitCharacter (digit : Nat) : Char := Char.ofNat (48 + digit)

def digit? (character : Char) : Option Nat :=
  if 48 ≤ character.toNat ∧ character.toNat ≤ 57 then some (character.toNat - 48) else none

def characters (number : Nat) : List Char := (digits number).map digitCharacter

def signedCharacters : Int → List Char
  | .ofNat number => characters number
  | .negSucc number => '-' :: characters (number + 1)

def text (number : Nat) : String := String.ofList (characters number)

def signedText (number : Int) : String := String.ofList (signedCharacters number)

def digitsOf? (characters : List Char) : Option (List Nat) :=
  if characters.isEmpty then none else characters.mapM digit?

def readSigned? (text : String) : Option Int :=
  match text.toList with
  | '-' :: rest => (digitsOf? rest).map fun digits => -(value digits : Int)
  | '+' :: rest => (digitsOf? rest).map fun digits => (value digits : Int)
  | characters => (digitsOf? characters).map fun digits => (value digits : Int)

end Decimal

end DeviceAuth
