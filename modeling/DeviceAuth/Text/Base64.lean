import DeviceAuth.Text.Octets

/-! Base64 text with padding. Three octets are written as four characters of a
64-letter alphabet; a last group of one or two octets is filled up with `=`.
Reading accepts only what writing produces: full groups, canonical padding, and
zero in the bits that the last group leaves unused. -/

namespace DeviceAuth

namespace Base64

def letter (value : Nat) : Char :=
  if value < 26 then Char.ofNat (65 + value)
  else if value < 52 then Char.ofNat (71 + value)
  else if value < 62 then Char.ofNat (value - 4)
  else if value = 62 then '+'
  else '/'

def letter? (character : Char) : Option Nat :=
  let code := character.toNat
  if 65 ≤ code ∧ code ≤ 90 then some (code - 65)
  else if 97 ≤ code ∧ code ≤ 122 then some (code - 71)
  else if 48 ≤ code ∧ code ≤ 57 then some (code + 4)
  else if character = '+' then some 62
  else if character = '/' then some 63
  else none

theorem letter?_letter (value : Nat) (small : value < 64) :
    letter? (letter value) = some value := by
  have every : ∀ value : Fin 64, letter? (letter value) = some value.val := by decide
  exact every ⟨value, small⟩

theorem letter_ne_padding (value : Nat) (small : value < 64) : letter value ≠ '=' := by
  have every : ∀ value : Fin 64, letter value ≠ '=' := by decide
  exact every ⟨value, small⟩

def characters : Octets → List Char
  | [] => []
  | [first] =>
      let value := first.toNat
      [letter (value / 4), letter (value % 4 * 16), '=', '=']
  | [first, second] =>
      let value := first.toNat * 256 + second.toNat
      [letter (value / 1024), letter (value / 16 % 64), letter (value % 16 * 4), '=']
  | first :: second :: third :: rest =>
      let value := (first.toNat * 256 + second.toNat) * 256 + third.toNat
      letter (value / 262144) :: letter (value / 4096 % 64) :: letter (value / 64 % 64) ::
        letter (value % 64) :: characters rest

def lastGroup? (first second third : Char) : Option Octets :=
  if third = '=' then do
    let first ← letter? first
    let second ← letter? second
    if second % 16 = 0 then pure [UInt8.ofNat (first * 4 + second / 16)] else none
  else do
    let first ← letter? first
    let second ← letter? second
    let third ← letter? third
    if third % 4 = 0 then
      pure [UInt8.ofNat (first * 4 + second / 16), UInt8.ofNat (second % 16 * 16 + third / 4)]
    else none

def fullGroup? (first second third fourth : Char) : Option Octets := do
  let first ← letter? first
  let second ← letter? second
  let third ← letter? third
  let fourth ← letter? fourth
  pure [UInt8.ofNat (first * 4 + second / 16), UInt8.ofNat (second % 16 * 16 + third / 4),
    UInt8.ofNat (third % 4 * 64 + fourth)]

def octets? : List Char → Option Octets
  | [] => some []
  | [first, second, third, '='] => lastGroup? first second third
  | first :: second :: third :: fourth :: rest => do
      let group ← fullGroup? first second third fourth
      let octets ← octets? rest
      pure (group ++ octets)
  | _ => none

def encode (octets : Octets) : String := String.ofList (characters octets)

def decode? (text : String) : Option Octets := octets? text.toList

def decodeOctets? (text : Octets) : Option Octets :=
  octets? (text.map fun octet => Char.ofNat octet.toNat)

example : encode [0x4d, 0x61, 0x6e] = "TWFu" := by decide
example : encode [0x4d] = "TQ==" := by decide
example : decode? "TQ==" = some [0x4d] := by decide
-- The unused bits of a last group have to be zero.
example : decode? "TR==" = none := by decide

end Base64

end DeviceAuth
