import DeviceAuth.Cipher.Gcm
import DeviceAuth.Failure
import DeviceAuth.Text.Blank
import DeviceAuth.Text.Hexadecimal

/-! Sealed packets: a nonce of twelve octets, a tag of sixteen, and a ciphertext, in
at most 512 octets. The key proves that whoever sealed a packet holds the device
in their hands. -/

namespace DeviceAuth

structure PopKey where
  octets : Octets
  size : octets.length = 32

instance : DecidableEq PopKey := fun left right =>
  decidable_of_iff (left.octets = right.octets) (by cases left; cases right; simp)

namespace PopKey

def ofOctets? (octets : Octets) : Option PopKey :=
  if size : octets.length = 32 then some ⟨octets, size⟩ else none

def ofHex? (text : String) : Option PopKey :=
  (Hexadecimal.decode? (Text.trim text)).bind ofOctets?

def summary (_ : PopKey) : String := "PopKey(<redacted>)"

end PopKey

structure Packet where
  nonce : Octets
  tag : Octets
  ciphertext : Octets
deriving DecidableEq

namespace Packet

def nonceSize : Nat := 12
def tagSize : Nat := 16

def headerSize : Nat := nonceSize + tagSize

def greatestSize : Nat := 512

def octets (packet : Packet) : Octets := packet.nonce ++ packet.tag ++ packet.ciphertext

def ofOctets (octets : Octets) : Except Failure Packet :=
  if octets.length < headerSize ∨ greatestSize < octets.length then
    .error (.protocol ("packet length " ++ Decimal.text octets.length ++ " outside " ++
      Decimal.text headerSize ++ "..=" ++ Decimal.text greatestSize))
  else
    .ok ⟨octets.take nonceSize, (octets.drop nonceSize).take tagSize, octets.drop headerSize⟩

def size (packet : Packet) : Nat := headerSize + packet.ciphertext.length

def opened (key : PopKey) (packet : Packet) : Except Failure Octets :=
  if Gcm.tag key.octets packet.nonce packet.ciphertext = packet.tag then
    .ok (Gcm.crypt key.octets packet.nonce packet.ciphertext)
  else .error (.crypto "authentication tag mismatch")

def sealed (key : PopKey) (nonce text : Octets) : Except Failure Octets :=
  if greatestSize < headerSize + text.length then
    .error (.protocol
      ("plaintext of " ++ Decimal.text text.length ++ " bytes does not fit in a packet"))
  else
    let ciphertext := Gcm.crypt key.octets nonce text
    .ok (octets ⟨nonce, Gcm.tag key.octets nonce ciphertext, ciphertext⟩)

end Packet

end DeviceAuth
