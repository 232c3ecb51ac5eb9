import DeviceAuth.Device.Token

/-! Claiming the device. Whoever wants to claim is admitted first, and then waits for
a turn, so that one claim is under way at a time. The claim itself is an effort of
its own; what it results in is kept when it has ended. -/

namespace DeviceAuth

namespace Device

variable {σ : Type} [Backend σ]

omit [Backend σ] in
def admitClaim (code : String) (device : Device σ) : Except Failure Unit :=
  if device.keeper.phase = .uninitialized then .error Keeper.notInitialized
  else
    match PairingCode.check code with
    | .ok () => .ok ()
    | .error failure => .error (.field failure)

def openClaim (code : String) (device : Device σ) :
    Except Failure Claim.Effort × Device σ :=
  let (_, device) := device.perform (Credentials.savePairingCode code)
  match device.perform Credentials.loadChildId with
  | (.error failure, device) => (.error (.store failure), device)
  | (.ok none, device) => (.error (.state "no child_id provisioned"), device)
  | (.ok (some childId), device) =>
      (.ok (Claim.Effort.persistent device.settings childId), device)

def prepareRequest (childId : String) (device : Device σ) :
    Except Failure Claim.Request × Device σ :=
  let (result, store, random) :=
    Claim.Request.prepare device.settings device.address childId device.store device.random
  (ofStore result, { device with store := store, random := random })

omit [Backend σ] in
def judge (result : Except Failure Claim.Grant) (effort : Claim.Effort) (device : Device σ) :
    Claim.Verdict × Claim.Effort × Device σ :=
  let (verdict, effort, random) := effort.judge result device.random
  (verdict, effort, { device with random := random })

def keepGrant (grant : Claim.Grant) (device : Device σ) : Except Failure Unit × Device σ :=
  let (result, device) := device.perform (grant.keep device.settings)
  (ofStore result, device)

omit [Backend σ] in
def confirmClaim (device : Device σ) : Device σ :=
  let device := device.onKeeper Keeper.resetRetries
  device.emit (.authenticated ((device.keeper.record.map (·.expiry)).getD 0))

/-- Hold the token of a grant, whether or not the grant could be stored. -/
def holdGrant (grant : Claim.Grant) (device : Device σ) : Except Abort Unit × Device σ :=
  let (_, device) := device.keepGrant grant
  match device.storeToken grant.accessToken grant.lifetime with
  | (.error abort, device) => (.error abort, device)
  | (.ok _, device) => (.ok (), device.confirmClaim)

def closeClaim (result : Except Abort Claim.Grant) (device : Device σ) :
    Except Abort Unit × Device σ :=
  match result with
  | .ok grant => device.holdGrant grant
  | .error (.failure (.refused status message)) =>
      let failure := Failure.refused status message
      (.error failure, device.emit (.authFailed failure.message))
  | .error abort => (.error abort, device)

/-! ## A claim as a whole -/

/-- Wait for replies, and post another request after each one that is not final. As
long as the replies do not suffice, there is no result. -/
def awaitReplies : List Claim.Reply → Claim.Effort → Device σ →
    Option (Except Abort Claim.Grant) × Device σ
  | [], _, device => (none, device)
  | reply :: rest, effort, device =>
      match { device with now := reply.now }.judge reply.outcome.grant effort with
      | (.finish result, _, device) => (some result, device)
      | (.rest _, effort, device) =>
          match device.prepareRequest effort.childId with
          | (.error failure, device) => (some (.error failure), device)
          | (.ok _, device) => awaitReplies rest effort device

def attemptClaim (replies : List Claim.Reply) (effort : Claim.Effort) (device : Device σ) :
    Option (Except Abort Claim.Grant) × Device σ :=
  match device.prepareRequest effort.childId with
  | (.error failure, device) => (some (.error failure), device)
  | (.ok _, device) => awaitReplies replies effort device

def closeAttempts (answer : Option (Except Abort Claim.Grant) × Device σ) :
    Option (Except Abort Unit) × Device σ :=
  match answer with
  | (none, device) => (none, device)
  | (some result, device) =>
      let (ended, device) := device.closeClaim result
      (some ended, device)

def claimInTurn (code : String) (replies : List Claim.Reply) (device : Device σ) :
    Option (Except Abort Unit) × Device σ :=
  match device.openClaim code with
  | (.error failure, device) => (some (.error failure), device)
  | (.ok effort, device) => closeAttempts (device.attemptClaim replies effort)

def authenticate (code : String) (replies : List Claim.Reply) (device : Device σ) :
    Option (Except Abort Unit) × Device σ :=
  match device.admitClaim code with
  | .error failure => (some (.error failure), device)
  | .ok () => device.claimInTurn code replies

end Device

end DeviceAuth
