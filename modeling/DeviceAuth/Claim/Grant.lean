import DeviceAuth.Failure
import DeviceAuth.Json.Form
import DeviceAuth.Text.Lossy

/-! What the server grants to a device that has claimed its place, and what its
answers mean. -/

namespace DeviceAuth

namespace Claim

structure Grant where
  accessToken : String
  refreshToken : String
  lifetime : UInt32
  sessionId : Option String := none
  childProfile : Option Json.Value := none
  deviceConfig : Option Json.Value := none
  pairingCode : Option String := none
  payload : Option Json.Value := none

namespace Grant

def fields : List Json.Field :=
  [["access_token"], ["refresh_token"], ["expires_in", "expires_in_sec"], ["device_session_id"],
    ["child_profile"], ["device_config"], ["pairing_code"], ["provisioning_payload"]]

def valueRoom : Nat := Json.greatestDepth - 1

def ofDocument? (document : Json.Document) : Option Grant :=
  match document.fill? fields with
  | some [accessToken, refreshToken, lifetime, sessionId, childProfile, deviceConfig, pairingCode,
      payload] => do
      let accessToken ← Json.required? Json.Document.text? accessToken
      let refreshToken ← Json.required? Json.Document.text? refreshToken
      let lifetime ← Json.required? Json.Document.word? lifetime
      let sessionId ← Json.optional? Json.Document.text? sessionId
      let childProfile ← Json.optional? (Json.Value.ofDocument? valueRoom) childProfile
      let deviceConfig ← Json.optional? (Json.Value.ofDocument? valueRoom) deviceConfig
      let pairingCode ← Json.optional? Json.Document.text? pairingCode
      let payload ← Json.optional? (Json.Value.ofDocument? valueRoom) payload
      pure ⟨accessToken, refreshToken, lifetime, sessionId, childProfile, deviceConfig, pairingCode,
        payload⟩
  | _ => none

def ofOctets? (octets : Octets) : Option Grant :=
  (Json.Document.parse? octets).bind ofDocument?

def summary (grant : Grant) : String :=
  "ClaimResponse \x7b access_token: <" ++ Decimal.text grant.accessToken.utf8ByteSize ++
    " bytes>, refresh_token: <" ++ Decimal.text grant.refreshToken.utf8ByteSize ++
    " bytes>, expires_in: " ++ Decimal.text grant.lifetime.toNat ++ ", device_session_id: " ++
    Text.Quoted.encodeOption grant.sessionId ++ ", has_device_config: " ++
    (if grant.deviceConfig.isSome then "true" else "false") ++ " \x7d"

end Grant

/-! ## Answers -/

structure Answer where
  status : Nat
  body : Octets
deriving DecidableEq, Repr

abbrev Outcome := Except LinkFailure Answer

namespace Answer

def isSuccess (answer : Answer) : Bool := 200 ≤ answer.status && answer.status < 300

def greatestMessage : Nat := 120

def givenMessage? (body : Octets) : Option String := do
  let document ← Json.Document.parse? body
  match document.fill? [["message", "detail", "error"]] with
  | some [message] => Json.required? Json.Document.text? message
  | _ => none

def refusalMessage (answer : Answer) : String :=
  let message := (givenMessage? answer.body).getD (Text.lossy answer.body)
  String.ofList (message.toList.take greatestMessage)

def grant (answer : Answer) : Except Failure Grant :=
  if answer.isSuccess then
    match Grant.ofOctets? answer.body with
    | some grant => .ok grant
    | none => .error (.link (.invalidResponse "not a claim response"))
  else if answer.status = 429 then .error (.link .rateLimited)
  else if 500 ≤ answer.status ∧ answer.status < 600 then .error (.link (.server answer.status))
  else if 400 ≤ answer.status ∧ answer.status < 500 then
    .error (.refused answer.status answer.refusalMessage)
  else
    .error (.link (.invalidResponse ("unexpected status " ++ Decimal.text answer.status)))

end Answer

def Outcome.grant : Outcome → Except Failure Grant
  | .ok answer => answer.grant
  | .error failure => .error (.link failure)

structure Reply where
  outcome : Outcome
  now : UInt32

end Claim

end DeviceAuth
