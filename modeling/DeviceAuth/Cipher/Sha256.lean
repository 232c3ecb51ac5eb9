import DeviceAuth.Text.Octets

/-! SHA-256 and the keyed digest HMAC-SHA256 built on it, as FIPS 180-4 and FIPS
198-1 define them. -/

namespace DeviceAuth

namespace Sha256

/-- The first 32 bits of the fractional parts of the cube roots of the first 64
primes. -/
def roundConstants : List UInt32 := [
    0x428a2f98, 0x71374491, 0xb5c0fbcf, 0xe9b5dba5, 0x3956c25b, 0x59f111f1, 0x923f82a4,
    0xab1c5ed5, 0xd807aa98, 0x12835b01, 0x243185be, 0x550c7dc3, 0x72be5d74, 0x80deb1fe,
    0x9bdc06a7, 0xc19bf174, 0xe49b69c1, 0xefbe4786, 0x0fc19dc6, 0x240ca1cc, 0x2de92c6f,
    0x4a7484aa, 0x5cb0a9dc, 0x76f988da, 0x983e5152, 0xa831c66d, 0xb00327c8, 0xbf597fc7,
    0xc6e00bf3, 0xd5a79147, 0x06ca6351, 0x14292967, 0x27b70a85, 0x2e1b2138, 0x4d2c6dfc,
    0x53380d13, 0x650a7354, 0x766a0abb, 0x81c2c92e, 0x92722c85, 0xa2bfe8a1, 0xa81a664b,
    0xc24b8b70, 0xc76c51a3, 0xd192e819, 0xd6990624, 0xf40e3585, 0x106aa070, 0x19a4c116,
    0x1e376c08, 0x2748774c, 0x34b0bcb5, 0x391c0cb3, 0x4ed8aa4a, 0x5b9cca4f, 0x682e6ff3,
    0x748f82ee, 0x78a5636f, 0x84c87814, 0x8cc70208, 0x90befffa, 0xa4506ceb, 0xbef9a3f7,
    0xc67178f2
  ]

structure State where
  a : UInt32
  b : UInt32
  c : UInt32
  d : UInt32
  e : UInt32
  f : UInt32
  g : UInt32
  h : UInt32

/-- The first 32 bits of the fractional parts of the square roots of the first
eight primes. -/
def initial : State :=
  ⟨0x6a09e667, 0xbb67ae85, 0x3c6ef372, 0xa54ff53a, 0x510e527f, 0x9b05688c, 0x1f83d9ab, 0x5be0cd19⟩

def rotate (word count : UInt32) : UInt32 := (word >>> count) ||| (word <<< (32 - count))

def bigEndianWord (octets : Octets) : UInt32 :=
  octets.foldl (fun word octet => word * 256 + octet.toUInt32) 0

def bigEndianOctets (word : UInt32) : Octets :=
  [(word >>> 24).toUInt8, (word >>> 16).toUInt8, (word >>> 8).toUInt8, word.toUInt8]

def cut (size : Nat) : Nat → Octets → List Octets
  | 0, _ => []
  | bound + 1, octets =>
      if octets.isEmpty then [] else octets.take size :: cut size bound (octets.drop size)

def pad (message : Octets) : Octets :=
  let zeros := (119 - message.length % 64) % 64
  let bits := 8 * message.length
  let mark : Octets := 0x80 :: List.replicate zeros 0
  message ++ mark ++
    ((List.range 8).reverse.map fun place => UInt8.ofNat (bits >>> (8 * place)))

def nextWord (recent : List UInt32) : UInt32 :=
  let second := recent.getD 1 0
  let fifteenth := recent.getD 14 0
  let small0 := rotate fifteenth 7 ^^^ rotate fifteenth 18 ^^^ (fifteenth >>> 3)
  let small1 := rotate second 17 ^^^ rotate second 19 ^^^ (second >>> 10)
  recent.getD 15 0 + small0 + recent.getD 6 0 + small1

def extend : Nat → List UInt32 → List UInt32
  | 0, words => words
  | count + 1, words => extend count (nextWord words :: words)

def schedule (block : Octets) : List UInt32 :=
  (extend 48 ((cut 4 16 block).map bigEndianWord).reverse).reverse

def round (state : State) (input : UInt32 × UInt32) : State :=
  let sum1 := rotate state.e 6 ^^^ rotate state.e 11 ^^^ rotate state.e 25
  let choice := (state.e &&& state.f) ^^^ ((~~~ state.e) &&& state.g)
  let first := state.h + sum1 + choice + input.1 + input.2
  let sum0 := rotate state.a 2 ^^^ rotate state.a 13 ^^^ rotate state.a 22
  let majority := (state.a &&& state.b) ^^^ (state.a &&& state.c) ^^^ (state.b &&& state.c)
  ⟨first + (sum0 + majority), state.a, state.b, state.c, state.d + first, state.e, state.f, state.g⟩

def compress (state : State) (block : Octets) : State :=
  let last := (roundConstants.zip (schedule block)).foldl round state
  ⟨state.a + last.a, state.b + last.b, state.c + last.c, state.d + last.d,
    state.e + last.e, state.f + last.f, state.g + last.g, state.h + last.h⟩

def State.octets (state : State) : Octets :=
  bigEndianOctets state.a ++ bigEndianOctets state.b ++ bigEndianOctets state.c ++
    bigEndianOctets state.d ++ bigEndianOctets state.e ++ bigEndianOctets state.f ++
    bigEndianOctets state.g ++ bigEndianOctets state.h

def digest (message : Octets) : Octets :=
  let padded := pad message
  ((cut 64 padded.length padded).foldl compress initial).octets

theorem length_digest (message : Octets) : (digest message).length = 32 := rfl

/-! ## Keyed digests -/

def blockSize : Nat := 64

def blockKey (key : Octets) : Octets :=
  let short := if key.length > blockSize then digest key else key
  short ++ List.replicate (blockSize - short.length) 0

def keyedDigest (key message : Octets) : Octets :=
  let block := blockKey key
  let inner := digest (block.map (· ^^^ 0x36) ++ message)
  digest (block.map (· ^^^ 0x5c) ++ inner)

end Sha256

end DeviceAuth
