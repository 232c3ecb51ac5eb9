import DeviceAuth.Text.Octets

/-! The block cipher AES with a key of 256 bits, as FIPS 197 defines it. Only the
forward direction is needed: counter mode decrypts by encrypting again. A block
is sixteen octets, column after column. -/

namespace DeviceAuth

namespace Aes256

def double (value : UInt8) : UInt8 :=
  let shifted := value <<< 1
  if value < 0x80 then shifted else shifted ^^^ 0x1b

def multiply : Nat → UInt8 → UInt8 → UInt8
  | 0, _, _ => 0
  | count + 1, left, right =>
      (if right % 2 = 1 then left else 0) ^^^ multiply count (double left) (right >>> 1)

def power (value : UInt8) : Nat → UInt8
  | 0 => 1
  | count + 1 => multiply 8 value (power value count)

def rotate (value count : UInt8) : UInt8 := (value <<< count) ||| (value >>> (8 - count))

def substituteOf (value : UInt8) : UInt8 :=
  let inverse := power value 254
  inverse ^^^ rotate inverse 1 ^^^ rotate inverse 2 ^^^ rotate inverse 3 ^^^ rotate inverse 4 ^^^
    0x63

def substitutes : Array UInt8 :=
  (Array.range 256).map fun value => substituteOf (UInt8.ofNat value)

def substitute (value : UInt8) : UInt8 := substitutes.getD value.toNat 0

/-! ## Key schedule -/

def addWords (left right : Octets) : Octets := Octets.xor left right

def nextWord (recent : List Octets) (index : Nat) : Octets :=
  let last := recent.headD []
  let changed :=
    if index % 8 = 0 then
      match (last.drop 1 ++ last.take 1).map substitute with
      | first :: rest => (first ^^^ power 2 (index / 8 - 1)) :: rest
      | [] => []
    else if index % 8 = 4 then last.map substitute
    else last
  addWords changed (recent.getD 7 [])

def extend : Nat → List Octets → List Octets
  | 0, words => words
  | count + 1, words => extend count (nextWord words words.length :: words)

def words : Nat → Octets → List Octets
  | 0, _ => []
  | bound + 1, octets => octets.take 4 :: words bound (octets.drop 4)

def joinFour : List Octets → List Octets
  | first :: second :: third :: fourth :: rest =>
      (first ++ second ++ third ++ fourth) :: joinFour rest
  | _ => []

def roundKeys (key : Octets) : List Octets :=
  joinFour (extend 52 (words 8 key).reverse).reverse

/-! ## Rounds -/

def shiftOrder : List Nat := [0, 5, 10, 15, 4, 9, 14, 3, 8, 13, 2, 7, 12, 1, 6, 11]

def shiftRows (block : Octets) : Octets :=
  let octets := block.toArray
  shiftOrder.map fun place => octets.getD place 0

def mixColumns : Octets → Octets
  | a :: b :: c :: d :: rest =>
      (double a ^^^ double b ^^^ b ^^^ c ^^^ d) :: (a ^^^ double b ^^^ double c ^^^ c ^^^ d) ::
        (a ^^^ b ^^^ double c ^^^ double d ^^^ d) :: (double a ^^^ a ^^^ b ^^^ c ^^^ double d) ::
        mixColumns rest
  | _ => []

def rounds : List Octets → Octets → Octets
  | [], block => block
  | [last], block => Octets.xor (shiftRows (block.map substitute)) last
  | key :: rest, block =>
      rounds rest (Octets.xor (mixColumns (shiftRows (block.map substitute))) key)

def encryptWith (keys : List Octets) (block : Octets) : Octets :=
  match keys with
  | [] => block
  | first :: rest => rounds rest (Octets.xor block first)

end Aes256

end DeviceAuth
