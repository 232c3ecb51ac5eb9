import DeviceAuth.Number.Decimal
import DeviceAuth.Panic
import DeviceAuth.Storage.Location
import DeviceAuth.Text.Quoted

/-! What can go wrong. Each kind of failure says what happened, and has one
message. Only failures of the link to the server may pass by themselves, so only
these are worth another attempt. -/

namespace DeviceAuth

inductive WifiFailure where
  | ssidEmpty
  | ssidTooLong (size limit : Nat)
  | passwordTooShort (size least : Nat)
  | passwordTooLong (size limit : Nat)
  | badFormat (reason : String)
deriving DecidableEq, Repr

inductive FieldFailure where
  | wifi (failure : WifiFailure)
  | childId (reason : String)
  | pairingCode (reason : String)
  | childAge (age : Int32)
  | deviceId (id : String)
  | malformed (reason : String)
deriving DecidableEq

inductive LinkFailure where
  | timeout
  | connection (reason : String)
  | rateLimited
  | server (status : Nat)
  | unavailable
  | invalidResponse (reason : String)
deriving DecidableEq, Repr

inductive StoreFailure where
  | unavailable (reason : String)
  | read (location : Location) (reason : String)
  | write (location : Location) (reason : String)
  | corrupt (location : Location)
deriving DecidableEq, Repr

inductive Failure where
  | protocol (message : String)
  | crypto (message : String)
  | field (failure : FieldFailure)
  | link (failure : LinkFailure)
  | refused (status : Nat) (message : String)
  | store (failure : StoreFailure)
  | state (message : String)
deriving DecidableEq

/-- What an operation ends with that has no result: a failure, which its caller is told, or
a panic. -/
inductive Abort where
  | failure (failure : Failure)
  | panic (panic : Panic)
deriving DecidableEq

instance : Coe Failure Abort := ⟨.failure⟩

instance : Coe Panic Abort := ⟨.panic⟩

namespace WifiFailure

def message : WifiFailure → String
  | .ssidEmpty => "SSID cannot be empty"
  | .ssidTooLong size limit =>
      "SSID too long: " ++ Decimal.text size ++ " bytes (max " ++ Decimal.text limit ++ ")"
  | .passwordTooShort size least =>
      "password too short: " ++ Decimal.text size ++ " bytes (min " ++ Decimal.text least ++ ")"
  | .passwordTooLong size limit =>
      "password too long: " ++ Decimal.text size ++ " bytes (max " ++ Decimal.text limit ++ ")"
  | .badFormat reason => "invalid format: " ++ reason

end WifiFailure

namespace FieldFailure

def message : FieldFailure → String
  | .wifi failure => "wifi: " ++ failure.message
  | .childId reason => "child_id: " ++ reason
  | .pairingCode reason => "pairing_code: " ++ reason
  | .childAge age => "child_age out of range: " ++ Decimal.signedText age.toInt
  | .deviceId id => "device_id has invalid characters: " ++ Text.Quoted.encode id
  | .malformed reason => "malformed payload: " ++ reason

end FieldFailure

namespace LinkFailure

def message : LinkFailure → String
  | .timeout => "request timed out"
  | .connection reason => "connection failed: " ++ reason
  | .rateLimited => "rate limited by server"
  | .server status => "server error " ++ Decimal.text status
  | .unavailable => "no transport available"
  | .invalidResponse reason => "invalid response: " ++ reason

/-- Whether the failure may pass by itself. A link that does not exist and an
answer that cannot be read stay as they are. -/
def isRetryable : LinkFailure → Bool
  | .invalidResponse _ => false
  | .unavailable => false
  | _ => true

end LinkFailure

namespace StoreFailure

def message : StoreFailure → String
  | .unavailable reason => "storage unavailable: " ++ reason
  | .read location reason => "failed to read " ++ location.text ++ ": " ++ reason
  | .write location reason => "failed to write " ++ location.text ++ ": " ++ reason
  | .corrupt location => "stored value " ++ location.text ++ " is corrupt"

end StoreFailure

namespace Failure

def message : Failure → String
  | .protocol message => "protocol error: " ++ message
  | .crypto message => "crypto error: " ++ message
  | .field failure => "validation error: " ++ failure.message
  | .link failure => "transport error: " ++ failure.message
  | .refused status message =>
      "authentication rejected (" ++ Decimal.text status ++ "): " ++ message
  | .store failure => "storage error: " ++ failure.message
  | .state message => "invalid state: " ++ message

def isRetryable : Failure → Bool
  | .link failure => failure.isRetryable
  | _ => false

def cause? : Failure → Option String
  | .field failure => some failure.message
  | .link failure => some failure.message
  | .store failure => some failure.message
  | _ => none

end Failure

end DeviceAuth
