import DeviceAuth.Device

/-! The token of the device. What the keeper remembers and what the store holds are
brought together here: a token is stored whenever it is new or has a new expiry,
and a store that fails does not keep the token from being used. -/

namespace DeviceAuth

namespace Device

variable {σ : Type} [Backend σ]

/-! ## Scheduling -/

omit [Backend σ] in
def keep {α : Type} (device : Device σ) (answer : α × Keeper) : α × Device σ :=
  (answer.1, { device with keeper := answer.2 })

omit [Backend σ] in
def schedule (device : Device σ) : Except Panic Schedule × Device σ :=
  device.keep (device.keeper.schedule device.settings device.now)

omit [Backend σ] in
def setAutoRefresh (enabled : Bool) (device : Device σ) : Except Panic Schedule × Device σ :=
  device.keep (device.keeper.setAutoRefresh device.settings device.now enabled)

/-! ## Holding a token -/

omit [Backend σ] in
def thenSchedule (answer : Except Failure Bool × Device σ) : Except Abort Unit × Device σ :=
  match answer with
  | (.error failure, device) => (.error failure, device)
  | (.ok false, device) => (.ok (), device)
  | (.ok true, device) =>
      match device.schedule with
      | (.ok _, scheduled) => (.ok (), scheduled)
      | (.error panic, scheduled) => (.error panic, scheduled)

def takeStored (device : Device σ) : Except Failure Bool × Device σ :=
  if device.keeper.phase ≠ .uninitialized then (.ok false, device)
  else
    match device.perform Credentials.loadRecord with
    | (.error failure, device) => (.error (.store failure), device)
    | (.ok stored, device) =>
        let begun := device.onKeeper (Keeper.beginWith device.settings device.now stored)
        (.ok begun.keeper.record.isSome, begun)

def loadToken (device : Device σ) : Except Abort Unit × Device σ :=
  thenSchedule device.takeStored

/-- The ids that a token is stored with. An id of the device that cannot be loaded
is taken from the address; a child that is not known has an empty id. -/
def tokenIds (address : Address) : Program (String × String) := do
  let deviceId ← (Credentials.loadDeviceId address).run
  let childId ← Credentials.loadChildId.run
  pure (deviceId.toOption.getD address.deviceId, (childId.toOption.bind id).getD "")

def holdToken (token : String) (lifetime : UInt32) (device : Device σ) :
    Except Failure Unit × Device σ :=
  if token.isEmpty then (.error (.state "refusing to store an empty token"), device)
  else
    match device.run (tokenIds device.address) with
    | ((deviceId, childId), device) =>
        if device.keeper.phase = .uninitialized then (.error Keeper.notInitialized, device)
        else
          let record : TokenRecord :=
            ⟨token, expiryAfter device.now lifetime, deviceId, childId⟩
          let (_, device) := device.perform (Credentials.saveRecord record)
          let held := device.onKeeper (Keeper.replace device.settings device.now record)
          (.ok (), held.emit (.tokenStored record.expiry))

def storeToken (token : String) (lifetime : UInt32) (device : Device σ) :
    Except Abort Schedule × Device σ :=
  match device.holdToken token lifetime with
  | (.error failure, device) => (.error failure, device)
  | (.ok (), device) =>
      match device.schedule with
      | (.ok schedule, device) => (.ok schedule, device)
      | (.error panic, device) => (.error panic, device)

def clearToken (device : Device σ) : Except Failure Unit × Device σ :=
  let (result, device) := (device.onKeeper Keeper.wipe).perform Credentials.clearTokens
  (ofStore result, device.emit .tokenCleared)

omit [Backend σ] in
def shutdown (device : Device σ) : Device σ := device.onKeeper Keeper.shutdown

/-! ## Refreshing -/

inductive RefreshMove where
  | finish (result : Except Abort Unit)
  | send (generation : UInt64) (message : String)

omit [Backend σ] in
def failRefresh (generation : UInt64) (reason : String) (device : Device σ) :
    Except Panic Unit × Device σ :=
  let (result, keeper, random) :=
    device.keeper.failRefresh device.settings device.now generation reason device.random
  (result, { device with keeper := keeper, random := random })

omit [Backend σ] in
def closeRefresh (generation : UInt64) (result : Except LinkFailure Unit) (device : Device σ) :
    Except Abort Unit × Device σ :=
  match result with
  | .ok () => (.ok (), device)
  | .error failure =>
      match device.failRefresh generation (Failure.link failure).message with
      | (.ok (), device) => (.error (Failure.link failure), device)
      | (.error panic, device) => (.error panic, device)

omit [Backend σ] in
def enterRefresh (device : Device σ) : Except Failure (UInt64 × String) × Device σ :=
  device.keep (device.keeper.enterRefresh device.settings)

omit [Backend σ] in
def openRefresh (device : Device σ) : RefreshMove × Device σ :=
  match device.keep (device.keeper.beginRefresh device.settings) with
  | (.alreadyUnderWay, device) => (.finish (.ok ()), device)
  | (.refused failure, device) => (.finish (.error failure), device)
  | (.send generation proof, device) =>
      if device.keeper.connected then (.send generation (Refresh.requestText proof), device)
      else
        let (result, device) := device.closeRefresh generation (.error .unavailable)
        (.finish result, device)

omit [Backend σ] in
def abandonRefresh (generation : UInt64) (device : Device σ) : Device σ :=
  device.onKeeper (Keeper.abandonRefresh device.settings device.now generation)

def applyAnswer (message : String) (device : Device σ) : Except Failure Bool × Device σ :=
  match Refresh.Answer.read message with
  | .error failure => (.error failure, device)
  | .ok answer =>
      if device.keeper.phase = .uninitialized then (.error Keeper.notInitialized, device)
      else
        let device := device.onKeeper Keeper.takeAnswer
        match answer, device.keeper.record with
        | .accepted _ _, none =>
            (.error (.state "refresh answered but no token held"),
              device.onKeeper Keeper.missToken)
        | .accepted lifetime token, some record =>
            let renewed := record.renewed device.now lifetime token
            let (_, device) := device.perform (Credentials.saveRecord renewed)
            let held := device.onKeeper (Keeper.hold device.settings device.now renewed)
            (.ok true, held.emit (.refreshed renewed.expiry))
        | .rejected reason, _ =>
            let (result, device) :=
              (device.onKeeper Keeper.drop).perform Credentials.clearTokens
            ((ofStore result).map fun _ => false, device.emit (.authFailed reason))

def takeAnswer (message : String) (device : Device σ) : Except Abort Unit × Device σ :=
  thenSchedule (device.applyAnswer message)

/-! ## Tasks -/

def noAnswer : String := "no refresh response"

omit [Backend σ] in
def wakeTask (task : Nat) (device : Device σ) : Device σ :=
  match device.keeper.duty? task with
  | some (.launchAfter _) => device.onKeeper (Keeper.fireTimer task)
  | some (.watch generation _) =>
      ((device.onKeeper (Keeper.endTask task)).failRefresh generation noAnswer).2
  | _ => device

omit [Backend σ] in
def openLaunched (task : Nat) (device : Device σ) : RefreshMove × Device σ :=
  (device.onKeeper (Keeper.endTask task)).openRefresh

end Device

end DeviceAuth
