import DeviceAuth.Cipher.Aes256

/-! Authenticated encryption with AES-256 in Galois/counter mode, with a nonce of
twelve octets, no associated data and a detached tag of sixteen octets. The text
is combined with a keystream, and the tag is a function of key, nonce and
ciphertext; so opening accepts exactly what sealing produces. -/

namespace DeviceAuth

namespace Gcm

def blockOfNat (number : Nat) : Octets :=
  (List.range 16).reverse.map fun place => UInt8.ofNat (number >>> (8 * place))

def natOfBlock (block : Octets) : Nat :=
  block.foldl (fun number octet => number * 256 + octet.toNat) 0

def counterBlock (nonce : Octets) (count : Nat) : Octets :=
  nonce ++ [UInt8.ofNat (count / 16777216), UInt8.ofNat (count / 65536), UInt8.ofNat (count / 256),
    UInt8.ofNat count]

def keystream (key nonce : Octets) (size : Nat) : Octets :=
  let keys := Aes256.roundKeys key
  (List.range ((size + 15) / 16)).flatMap fun index =>
    Aes256.encryptWith keys (counterBlock nonce (index + 2))

/-! ## Tag -/

/-- Halve an element of the field of `2 ^ 128` elements, whose most significant
bit is the constant term. -/
def halve (value : Nat) : Nat :=
  if value % 2 = 0 then value / 2 else (value / 2) ^^^ (0xe1 <<< 120)

def multiplyFrom : Nat → Nat → Nat → Nat → Nat
  | 0, _, _, sum => sum
  | count + 1, selector, factor, sum =>
      multiplyFrom count selector (halve factor)
        (if selector.testBit count then sum ^^^ factor else sum)

def multiply (left right : Nat) : Nat := multiplyFrom 128 left right 0

def digestBlocks (factor : Nat) : Nat → Octets → Nat → Nat
  | 0, _, sum => sum
  | bound + 1, octets, sum =>
      if octets.isEmpty then sum
      else
        let block := octets.take 16
        let filled := block ++ List.replicate (16 - block.length) 0
        digestBlocks factor bound (octets.drop 16) (multiply (sum ^^^ natOfBlock filled) factor)

def tag (key nonce ciphertext : Octets) : Octets :=
  let keys := Aes256.roundKeys key
  let factor := natOfBlock (Aes256.encryptWith keys (List.replicate 16 0))
  let sum := digestBlocks factor ciphertext.length ciphertext 0
  let last := multiply (sum ^^^ 8 * ciphertext.length) factor
  blockOfNat (last ^^^ natOfBlock (Aes256.encryptWith keys (counterBlock nonce 1)))

theorem length_tag (key nonce ciphertext : Octets) : (tag key nonce ciphertext).length = 16 := rfl

def crypt (key nonce text : Octets) : Octets :=
  Octets.xor text (keystream key nonce text.length)

end Gcm

end DeviceAuth
