import DeviceAuth.Identity
import DeviceAuth.Json.Printer
import DeviceAuth.Provisioning.Details
import DeviceAuth.Storage.Cell
import DeviceAuth.Text.Base64
import DeviceAuth.Token.Record

/-! The credential store: what a device keeps about itself, its child, its tokens and
its network. Values that belong together are written one after the other and
committed once; a group that was only written in part can still be read. -/

namespace DeviceAuth

namespace Credentials

open Cell (credentials tokens wifi)

/-! ## Identity -/

def loadDeviceId (address : Address) : Action String := do
  match ← Cell.deviceId.readText with
  | some id => if DeviceId.isValid id then pure id else Cell.deviceId.corrupt
  | none =>
      let id := address.deviceId
      Cell.deviceId.writeText id
      Action.commit credentials
      pure id

/-- The secret of the device. On first use it is derived from the id and stored;
one that is stored is never replaced, since the server would not know of it. -/
def loadSecret (address : Address) : Action Secret := do
  match ← Cell.secret.readText with
  | some text =>
      match Secret.ofHex? text with
      | some secret => pure secret
      | none => Cell.secret.corrupt
  | none =>
      let id ← loadDeviceId address
      let secret := Secret.derive id
      Cell.secret.writeText secret.hex
      Action.commit credentials
      pure secret

def loadIdentity (address : Address) : Action (String × Secret) := do
  let id ← loadDeviceId address
  let secret ← loadSecret address
  pure (id, secret)

/-! ## Tokens -/

def saveTokens (access refresh : String) : Action Unit := do
  Cell.accessToken.writeText access
  Cell.refreshToken.writeText refresh
  Action.commit tokens

def haveTokens : Program Bool := do
  match ← Cell.accessToken.read.run with
  | .ok (some value) => pure !value.isEmpty
  | .ok none => pure false
  | .error _ => pure false

def loadAccessToken : Action (Option String) := Cell.accessToken.readText

def loadRefreshToken : Action (Option String) := Cell.refreshToken.readText

def tokenCells : List Cell :=
  [.accessToken, .refreshToken, .tokenExpiry, .tokenDeviceId, .tokenChildId]

def clearTokens : Action Unit := do
  Cell.clearAll tokenCells
  Action.commit tokens

def saveRecord (record : TokenRecord) : Action Unit := do
  Cell.accessToken.writeText record.token
  Cell.tokenExpiry.write (Octets.ofWord record.expiry)
  Cell.tokenDeviceId.writeText record.deviceId
  Cell.tokenChildId.writeText record.childId
  Action.commit tokens

def loadRecord : Action (Option TokenRecord) := do
  match ← Cell.accessToken.readText with
  | none => pure none
  | some token =>
      if token.isEmpty then pure none
      else
        match ← Cell.tokenExpiry.readAs Octets.toWord? with
        | none => pure none
        | some expiry =>
            let deviceId ← Cell.tokenDeviceId.readText
            let childId ← Cell.tokenChildId.readText
            pure (some ⟨token, expiry, deviceId.getD "", childId.getD ""⟩)

/-! ## Pairing -/

def savePairingCode (code : String) : Action Unit := do
  Cell.pairingCode.writeText code
  Action.commit credentials

def loadPairingCode : Action (Option String) := Cell.pairingCode.readText

def saveChildId (id : String) : Action Unit := do
  Cell.childId.writeText id
  Action.commit credentials

def loadChildId : Action (Option String) := Cell.childId.readText

def ageOctets (age : Int32) : Octets := Octets.ofWord age.toUInt32

def age? (octets : Octets) : Option Int32 := (Octets.toWord? octets).map UInt32.toInt32

def saveChildAge (age : Int32) : Action Unit := do
  Cell.childAge.write (ageOctets age)
  Action.commit credentials

def loadChildAge : Action (Option Int32) := Cell.childAge.readAs age?

def payloadOctets (payload : Json.Value) : Octets :=
  Octets.ofText (Base64.encode payload.octets)

def payload? (octets : Octets) : Option Json.Value :=
  (Base64.decodeOctets? octets).bind Json.Value.parse?

def savePayload (payload : Json.Value) : Action Unit := do
  Cell.payload.write (payloadOctets payload)
  Action.commit credentials

def loadPayload : Action (Option Json.Value) := Cell.payload.readAs payload?

def saveDeviceConfig (config : Json.Value) : Action Unit := do
  Cell.deviceConfig.write config.octets
  Action.commit credentials

def loadDeviceConfig : Action (Option Json.Value) := Cell.deviceConfig.readAs Json.Value.parse?

/-! ## Network -/

def saveNetwork (network : Network) : Action Unit := do
  Cell.network.write network.octets
  Action.commit wifi

def network? (octets : Octets) : Option Network := (Network.ofOctets? octets).toOption

def loadNetwork : Action (Option Network) := Cell.network.readAs network?

def clearNetwork : Action Unit := do
  Cell.network.clear
  Action.commit wifi

/-! ## Provisioning -/

/-- Store everything that provisioning delivers. The network comes last: where it
is stored, the rest is too. -/
def saveDetails (details : Details) : Action Unit := do
  Cell.childId.writeText details.childId
  Cell.pairingCode.writeText details.pairingCode
  Cell.childAge.write (ageOctets details.childAge)
  Action.commit credentials
  saveNetwork details.network

def isProvisioned : Action Bool := do
  match ← Cell.network.read with
  | none => pure false
  | some _ => pure (← Cell.pairingCode.read).isSome

def pairingCells : List Cell :=
  [.pairingCode, .payload, .childId, .childAge, .deviceConfig]

/-- Forget everything but the identity of the device, which is bound to its
hardware. -/
def factoryReset : Action Unit := do
  Cell.clearAll pairingCells
  Action.commit credentials
  clearTokens
  clearNetwork

end Credentials

end DeviceAuth
