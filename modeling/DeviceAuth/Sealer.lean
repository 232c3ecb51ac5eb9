import DeviceAuth.Environment
import DeviceAuth.Json.Printer
import DeviceAuth.Provisioning.Details
import DeviceAuth.Provisioning.Packet
import DeviceAuth.Text.Base64

/-! The sealer makes a provisioning packet on the bench. It takes the details from the
environment, refuses what a device would refuse, and prints the packet in
hexadecimal digits and in Base64. -/

namespace DeviceAuth

namespace Sealer

/-! ## Troubles -/

inductive Trouble where
  | missing (name : String)
  | badKey
  | badAge (text : String)
  | refused (failure : Failure)
deriving DecidableEq

def keyVariable : String := "TEDDY_POP_KEY"
def ssidVariable : String := "WIFI_SSID"
def passwordVariable : String := "WIFI_PASSWORD"
def childIdVariable : String := "CHILD_ID"
def pairingCodeVariable : String := "PAIRING_CODE"
def childAgeVariable : String := "CHILD_AGE"

def Trouble.message : Trouble → String
  | .missing name => "Error: " ++ name ++ " is not set"
  | .badKey => "Error: " ++ keyVariable ++ " must be 64 hex characters"
  | .badAge text => "Error: " ++ childAgeVariable ++ " " ++ Text.Quoted.encode text ++
      " is not a number"
  | .refused failure => "Error: " ++ failure.message

/-! ## Making a packet -/

def required (environment : Environment) (name : String) : Except Trouble String :=
  match environment.filled? name with
  | some value => .ok value
  | none => .error (.missing name)

def age? (text : String) : Option Int :=
  (Decimal.readSigned? text).filter fun age =>
    Details.leastInt32 ≤ age ∧ age ≤ Details.greatestInt32

def givenAge (environment : Environment) : Except Trouble (Option Int) :=
  match environment.value? childAgeVariable with
  | none => .ok none
  | some text =>
      match age? text with
      | some age => .ok (some age)
      | none => .error (.badAge text)

def payload (ssid password childId pairingCode : String) (age : Option Int) : Json.Value :=
  Json.objectOf
    ([("ssid", .string ssid), ("password", .string password), ("child_id", .string childId),
        ("pairing_code", .string pairingCode)] ++
      (age.map fun age => ("child_age", .number (.whole age))).toList)

def read (environment : Environment) : Except Trouble (PopKey × Json.Value) := do
  let digits ← required environment keyVariable
  match PopKey.ofHex? digits with
  | none => throw .badKey
  | some key =>
      let ssid ← required environment ssidVariable
      let password := (environment.value? passwordVariable).getD ""
      let childId ← required environment childIdVariable
      let pairingCode ← required environment pairingCodeVariable
      let age ← givenAge environment
      pure (key, payload ssid password childId pairingCode age)

structure Made where
  details : Details
  packet : Octets

def make (environment : Environment) (nonce : Octets) : Except Trouble Made := do
  let (key, payload) ← read environment
  match Details.ofOctets payload.octets with
  | .error failure => throw (.refused failure)
  | .ok details =>
      match Packet.sealed key nonce payload.octets with
      | .error failure => throw (.refused failure)
      | .ok packet => pure ⟨details, packet⟩

/-! ## Printing -/

def usage : String :=
  "Usage:\n" ++
  "  TEDDY_POP_KEY=<64 hex chars> WIFI_SSID=\"MyNetwork\" WIFI_PASSWORD=\"secret\" \\\n" ++
  "  CHILD_ID=<uuid> PAIRING_CODE=\"TEDDY-1234\" [CHILD_AGE=6] \\\n" ++
  "  cargo run --bin provisioning-packet"

def hexLine (packet : Octets) : String := "hex:    " ++ Hexadecimal.encode packet

def base64Line (packet : Octets) : String := "base64: " ++ Base64.encode packet

def Made.lines (made : Made) : List String :=
  let network := made.details.network
  ["", "=== Provisioning Packet ===", "", "SSID:         " ++ network.ssid,
    "Password:     " ++ (if network.isOpen then "(none)" else "****") ++ " (" ++
      Decimal.text network.password.utf8ByteSize ++ " chars)",
    "Child ID:     " ++ made.details.childId] ++
  (if made.details.hasChildAge then
    ["Child age:    " ++ Decimal.signedText made.details.childAge.toInt] else []) ++
  ["Packet size:  " ++ Decimal.text made.packet.length ++ " bytes", "", hexLine made.packet,
    base64Line made.packet]

def printed (lines : List String) : String :=
  String.join (lines.map fun line => line ++ "\n")

structure Output where
  status : Nat
  stdout : String
  stderr : String
deriving DecidableEq, Repr

def run (environment : Environment) (nonce : Octets) : Output :=
  match make environment nonce with
  | .ok made => ⟨0, printed made.lines, ""⟩
  | .error trouble => ⟨1, "", printed ["", trouble.message, "", usage, ""]⟩

end Sealer

end DeviceAuth
