import DeviceAuth.Backoff
import DeviceAuth.Claim.Grant
import DeviceAuth.Claim.Localize
import DeviceAuth.Claim.Request
import DeviceAuth.Storage.Credentials

/-! Claiming a place with the server. An effort posts a request and waits for the
outcome; failures that may pass are followed by a rest and another request, as long
as there are attempts left. Everything that the server grants is then stored, each
part for itself. -/

namespace DeviceAuth

namespace Claim

/-! ## Requests -/

def Request.prepare {σ : Type} [Backend σ] (settings : Settings) (address : Address)
    (childId : String) (store : σ) (random : Octets) :
    Except StoreFailure Request × σ × Octets :=
  match (Credentials.loadIdentity address).perform store with
  | (.error failure, store) => (.error failure, store, random)
  | (.ok (deviceId, secret), store) =>
      let (nonce, random) := drawNonce random
      let request : Request := {
        deviceId := deviceId
        childId := childId
        nonce := Hexadecimal.encode nonce
        proof := Claim.proof secret deviceId childId nonce
        firmwareVersion := settings.firmwareVersion
      }
      (.ok request, store, random)

/-! ## Efforts -/

structure Effort where
  childId : String
  retriesLeft : Nat
  backoff : Backoff

inductive Verdict where
  | rest (delay : Span)
  | finish (result : Except Abort Grant)

namespace Effort

def single (settings : Settings) (childId : String) : Effort :=
  ⟨childId, 0, Backoff.ofSettings settings⟩

def persistent (settings : Settings) (childId : String) : Effort :=
  ⟨childId, settings.claimAttempts - 1, Backoff.ofSettings settings⟩

def judge (result : Except Failure Grant) (random : Octets) (effort : Effort) :
    Verdict × Effort × Octets :=
  match result with
  | .ok grant => (.finish (.ok grant), effort, random)
  | .error failure =>
      if failure.isRetryable && 0 < effort.retriesLeft then
        match effort.backoff.next random with
        | (.ok delay, backoff, random) =>
            (.rest delay,
              { effort with backoff := backoff, retriesLeft := effort.retriesLeft - 1 }, random)
        | (.error panic, backoff, random) =>
            (.finish (.error panic), { effort with backoff := backoff }, random)
      else (.finish (.error failure), effort, random)

end Effort

/-! ## Artifacts -/

namespace Grant

def saveConfig (settings : Settings) (config : Json.Value) : Action Unit :=
  Credentials.saveDeviceConfig (Localize.value settings.apiHost settings.tlsEnabled config).1

def artifacts (settings : Settings) (grant : Grant) : List (Action Unit) :=
  Credentials.saveTokens grant.accessToken grant.refreshToken ::
    ((grant.pairingCode.map Credentials.savePairingCode).toList ++
      (grant.payload.map Credentials.savePayload).toList ++
      (grant.deviceConfig.map (saveConfig settings)).toList)

def performAll : List (Action Unit) → Program (Except StoreFailure Unit)
  | [] => pure (.ok ())
  | action :: rest => do
      let first ← action.run
      let others ← performAll rest
      match first with
      | .ok () => pure others
      | .error failure => pure (.error failure)

def keep (settings : Settings) (grant : Grant) : Action Unit :=
  ExceptT.mk (performAll (grant.artifacts settings))

end Grant

end Claim

end DeviceAuth
