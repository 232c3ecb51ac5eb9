import DeviceAuth.Cipher.Sha256
import DeviceAuth.Failure
import DeviceAuth.Text.Blank
import DeviceAuth.Text.Hexadecimal

/-! Who a device is. The address of its radio gives it its id, and from the id
follows the secret that it shares with the server: both sides derive it with the
same salt, and nobody has to carry it from one to the other. -/

namespace DeviceAuth

/-! ## Addresses -/

structure Address where
  octets : Octets
  size : octets.length = 6 := by decide
deriving DecidableEq

namespace Address

def ofOctets? (octets : Octets) : Option Address :=
  if size : octets.length = 6 then some ⟨octets, size⟩ else none

def text (address : Address) : String :=
  String.ofList
    (List.intercalate [':'] (address.octets.map (Hexadecimal.ofOctet .upper)))

def deviceId (address : Address) : String := Hexadecimal.encodeUpper address.octets

end Address

/-! ## Device ids -/

namespace DeviceId

def isAllowed (octet : UInt8) : Bool :=
  (0x30 ≤ octet && octet ≤ 0x39) || (0x41 ≤ octet && octet ≤ 0x5a) ||
    (0x61 ≤ octet && octet ≤ 0x7a) || octet == 0x5f || octet == 0x2d

def isValid (id : String) : Bool :=
  !(Octets.ofText id).isEmpty && (Octets.ofText id).all isAllowed

def check (id : String) : Except FieldFailure Unit :=
  if isValid id then .ok () else .error (.deviceId id)

def isSeparator (character : Char) : Bool :=
  character == ':' || character == '-' || character == '.'

def upper (character : Char) : Char :=
  if 97 ≤ character.toNat ∧ character.toNat ≤ 122 then Char.ofNat (character.toNat - 32)
  else character

def plain (raw : String) : String :=
  String.ofList ((raw.toList.filter fun character => !isSeparator character).map upper)

def canonical (raw : String) : Except FieldFailure String :=
  match check (plain raw) with
  | .ok () => .ok (plain raw)
  | .error failure => .error failure

end DeviceId

/-! ## Secrets -/

structure Secret where
  octets : Octets
  size : octets.length = 32
deriving DecidableEq

namespace Secret

def ofOctets? (octets : Octets) : Option Secret :=
  if size : octets.length = 32 then some ⟨octets, size⟩ else none

def ofHex? (text : String) : Option Secret :=
  (Hexadecimal.decode? (Text.trim text)).bind ofOctets?

def hex (secret : Secret) : String := Hexadecimal.encode secret.octets

def summary (_ : Secret) : String := "OobSecret(<redacted>)"

def salt : String := "ai-teddy-bear-oob-v1"

def inner (deviceId : String) : String :=
  Hexadecimal.encode (Sha256.digest (Octets.ofText (deviceId ++ ":" ++ salt)))

def derive (deviceId : String) : Secret :=
  ⟨Sha256.digest (Octets.ofText (inner deviceId ++ salt)), Sha256.length_digest _⟩

end Secret

end DeviceAuth
