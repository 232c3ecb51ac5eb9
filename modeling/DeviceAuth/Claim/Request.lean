import DeviceAuth.Identity
import DeviceAuth.Json.Form
import DeviceAuth.Json.Printer

/-! The request by which a device claims its place with the server. A keyed digest
over the ids and a fresh nonce proves that the device knows its secret. -/

namespace DeviceAuth

namespace Claim

def nonceSize : Nat := 16

def drawNonce (random : Octets) : Octets × Octets := Octets.draw nonceSize random

def proofMessage (deviceId childId : String) (nonce : Octets) : Octets :=
  Octets.ofText deviceId ++ Octets.ofText childId ++ nonce

def proof (secret : Secret) (deviceId childId : String) (nonce : Octets) : String :=
  Hexadecimal.encode (Sha256.keyedDigest secret.octets (proofMessage deviceId childId nonce))

structure Request where
  deviceId : String
  childId : String
  nonce : String
  proof : String
  firmwareVersion : String
deriving DecidableEq, Repr

namespace Request

def value (request : Request) : Json.Value :=
  .object [("device_id", .string request.deviceId), ("child_id", .string request.childId),
    ("nonce", .string request.nonce), ("hmac_hex", .string request.proof),
    ("firmware_version", .string request.firmwareVersion)]

def text (request : Request) : String := request.value.text

def fields : List Json.Field :=
  [["device_id"], ["child_id"], ["nonce"], ["hmac_hex"], ["firmware_version"]]

def ofDocument? (document : Json.Document) : Option Request :=
  match document.fill? fields with
  | some [deviceId, childId, nonce, proof, firmwareVersion] => do
      let deviceId ← Json.required? Json.Document.text? deviceId
      let childId ← Json.required? Json.Document.text? childId
      let nonce ← Json.required? Json.Document.text? nonce
      let proof ← Json.required? Json.Document.text? proof
      let firmwareVersion ← Json.required? Json.Document.text? firmwareVersion
      pure ⟨deviceId, childId, nonce, proof, firmwareVersion⟩
  | _ => none

def ofOctets? (octets : Octets) : Option Request :=
  (Json.Document.parse? octets).bind ofDocument?

end Request

end Claim

end DeviceAuth
