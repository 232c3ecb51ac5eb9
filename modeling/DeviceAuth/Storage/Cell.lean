import DeviceAuth.Storage.Program

/-! The cells of the credential store: every location that the store uses, each for
one kind of value. Keys have at most fifteen octets, so the provisioning payload
has a short one. -/

namespace DeviceAuth

inductive Cell where
  | deviceId
  | secret
  | pairingCode
  | payload
  | childId
  | childAge
  | deviceConfig
  | accessToken
  | refreshToken
  | tokenExpiry
  | tokenDeviceId
  | tokenChildId
  | network
deriving DecidableEq, Repr

namespace Cell

def credentials : String := "credentials"

def tokens : String := "tokens"

def wifi : String := "wifi_config"

def location : Cell → Location
  | .deviceId => ⟨credentials, "device_id"⟩
  | .secret => ⟨credentials, "oob_secret"⟩
  | .pairingCode => ⟨credentials, "pairing_code"⟩
  | .payload => ⟨credentials, "prov_payload"⟩
  | .childId => ⟨credentials, "child_id"⟩
  | .childAge => ⟨credentials, "child_age"⟩
  | .deviceConfig => ⟨credentials, "device_config"⟩
  | .accessToken => ⟨tokens, "access_token"⟩
  | .refreshToken => ⟨tokens, "refresh_token"⟩
  | .tokenExpiry => ⟨tokens, "expiry"⟩
  | .tokenDeviceId => ⟨tokens, "device_id"⟩
  | .tokenChildId => ⟨tokens, "child_id"⟩
  | .network => ⟨wifi, "credentials"⟩

def all : List Cell :=
  [.deviceId, .secret, .pairingCode, .payload, .childId, .childAge, .deviceConfig, .accessToken,
    .refreshToken, .tokenExpiry, .tokenDeviceId, .tokenChildId, .network]

theorem mem_all (cell : Cell) : cell ∈ all := by
  cases cell <;> decide

theorem location_injective {left right : Cell} (equal : left.location = right.location) :
    left = right := by
  have every : ∀ first ∈ all, ∀ second ∈ all,
      first.location = second.location → first = second := by decide
  exact every left (mem_all left) right (mem_all right) equal

theorem key_size (cell : Cell) :
    cell.location.key.utf8ByteSize ≠ 0 ∧
      cell.location.key.utf8ByteSize ≤ Backend.greatestKey := by
  have every : ∀ cell ∈ all, cell.location.key.utf8ByteSize ≠ 0 ∧
      cell.location.key.utf8ByteSize ≤ Backend.greatestKey := by decide
  exact every cell (mem_all cell)

def read (cell : Cell) : Action (Option Octets) := Action.get cell.location

def write (cell : Cell) (value : Octets) : Action Unit := Action.set cell.location value

def clear (cell : Cell) : Action Unit := Action.remove cell.location

def corrupt {α : Type} (cell : Cell) : Action α := throw (.corrupt cell.location)

def readAs {α : Type} (decode? : Octets → Option α) (cell : Cell) : Action (Option α) := do
  match ← cell.read with
  | none => pure none
  | some octets =>
      match decode? octets with
      | some value => pure (some value)
      | none => cell.corrupt

def readText (cell : Cell) : Action (Option String) := cell.readAs Octets.toText?

def writeText (cell : Cell) (text : String) : Action Unit := cell.write (Octets.ofText text)

def clearAll : List Cell → Action Unit
  | [] => pure ()
  | cell :: rest => do
      cell.clear
      clearAll rest

end Cell

end DeviceAuth
