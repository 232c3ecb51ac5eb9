import DeviceAuth.Text.Octets

/-! Hexadecimal text. Each octet is written as two digits. Digits are written in
one chosen case and read in either, so reading undoes writing. -/

namespace DeviceAuth

namespace Hexadecimal

inductive Case where
  | lower
  | upper
deriving DecidableEq, Repr

def digit (letters : Case) (value : Nat) : Char :=
  if value < 10 then Char.ofNat (48 + value)
  else match letters with
    | .lower => Char.ofNat (87 + value)
    | .upper => Char.ofNat (55 + value)

def digit? (character : Char) : Option Nat :=
  let code := character.toNat
  if 48 ≤ code ∧ code ≤ 57 then some (code - 48)
  else if 97 ≤ code ∧ code ≤ 102 then some (code - 87)
  else if 65 ≤ code ∧ code ≤ 70 then some (code - 55)
  else none

theorem digit?_digit (letters : Case) (value : Nat) (small : value < 16) :
    digit? (digit letters value) = some value := by
  have every : ∀ letters : Case, ∀ value : Fin 16,
      digit? (digit letters value) = some value.val := by
    intro letters
    cases letters <;> decide
  exact every letters ⟨value, small⟩

def ofOctet (letters : Case) (octet : UInt8) : List Char :=
  [digit letters (octet.toNat / 16), digit letters (octet.toNat % 16)]

def characters (letters : Case) (octets : Octets) : List Char :=
  octets.flatMap (ofOctet letters)

def octets? : List Char → Option Octets
  | [] => some []
  | [_] => none
  | high :: low :: rest => do
      let high ← digit? high
      let low ← digit? low
      let octets ← octets? rest
      pure (UInt8.ofNat (16 * high + low) :: octets)

theorem octets?_characters (letters : Case) (octets : Octets) :
    octets? (characters letters octets) = some octets := by
  induction octets with
  | nil => rfl
  | cons octet rest induction =>
      have bound := octet.toNat_lt
      simp only [characters, ofOctet, List.flatMap_cons, List.cons_append, List.nil_append,
        octets?] at induction ⊢
      rw [digit?_digit letters _ (by omega), digit?_digit letters _ (by omega), induction]
      simp only [bind, Option.bind, pure, Option.some.injEq, List.cons.injEq, and_true]
      apply UInt8.toNat_inj.mp
      rw [UInt8.toNat_ofNat']
      omega

def encode (octets : Octets) : String := String.ofList (characters .lower octets)

def encodeUpper (octets : Octets) : String := String.ofList (characters .upper octets)

def decode? (text : String) : Option Octets := octets? text.toList

def decodeExact? (size : Nat) (text : String) : Option Octets :=
  (decode? text).filter fun octets => octets.length = size

theorem decode?_encode (octets : Octets) : decode? (encode octets) = some octets := by
  simp [decode?, encode, octets?_characters]

theorem encode_injective {left right : Octets} (equal : encode left = encode right) :
    left = right := by
  have decoded := decode?_encode left
  rw [equal, decode?_encode right] at decoded
  exact (Option.some.inj decoded).symm

theorem decode?_encodeUpper (octets : Octets) : decode? (encodeUpper octets) = some octets := by
  simp [decode?, encodeUpper, octets?_characters]

example : encode [0x0a, 0xff] = "0aff" := by decide
example : decode? "0AfF" = some [0x0a, 0xff] := by decide

end Hexadecimal

end DeviceAuth
