import DeviceAuth.Claim.Effort
import DeviceAuth.Proofs.Json.Documents
import DeviceAuth.Proofs.Storage.Identity
import DeviceAuth.Proofs.Storage.Monitor

/-! The requests of a device. However its store is used, and whichever of its writes fail,
the identity that was once stored stays, its parts belong together, and every request that
is posted can be read by the server and carries a proof for the id that it names. -/

namespace DeviceAuth

namespace Claim

open Honest (shelf)
open Credentials (Continues HasId Paired identityCells)

/-! ## Requests -/

namespace Request

theorem ofOctets?_text (request : Request) :
    ofOctets? (Octets.ofText request.text) = some request := by
  let document : Json.Document := .object [
    (some "device_id", .string (some request.deviceId)),
    (some "child_id", .string (some request.childId)),
    (some "nonce", .string (some request.nonce)),
    (some "hmac_hex", .string (some request.proof)),
    (some "firmware_version", .string (some request.firmwareVersion))]
  have written : request.value.document? = some document := rfl
  have parsed : Json.Document.parse? (Octets.ofText request.text) = some document :=
    Json.parse?_octets written
  rw [ofOctets?, parsed]
  rfl

/-- A request proves that its sender knows the secret of the id it names: the proof is the
keyed digest of the ids and of the sixteen octets of the nonce. -/
def IsProven (request : Request) : Prop :=
  ∃ nonce, Hexadecimal.decodeExact? nonceSize request.nonce = some nonce ∧
    request.proof = Hexadecimal.encode (Sha256.keyedDigest
      (Secret.derive request.deviceId).octets
      (Octets.ofText request.deviceId ++ Octets.ofText request.childId ++ nonce))

variable {σ : Type} [Backend σ] [Honest σ] {store : σ}

theorem prepare_spec (settings : Settings) (address : Address) (childId : String)
    (random : Octets) (paired : Paired (shelf store)) :
    Continues (shelf store) (shelf (prepare settings address childId store random).2.1) ∧
      ∀ request, (prepare settings address childId store random).1 = .ok request →
        request.IsProven ∧
          HasId request.deviceId (shelf (prepare settings address childId store random).2.1) := by
  have delivers := Credentials.delivers_loadIdentity address paired
  unfold prepare
  generalize (Credentials.loadIdentity address).perform store = answer at delivers
  rcases answer with ⟨failure | ⟨id, secret⟩, after⟩
  case error => exact ⟨delivers.continues, nofun⟩
  case ok =>
    refine ⟨delivers.continues, ?_⟩
    rintro _ ⟨⟩
    have good : HasId id (shelf after) ∧ secret = Secret.derive id :=
      delivers.good (id, secret) rfl
    rcases good with ⟨hasId, rfl⟩
    refine ⟨⟨(drawNonce random).1, ?_, rfl⟩, hasId⟩
    have size : (drawNonce random).1.length = nonceSize := Octets.length_draw _ _
    show (Hexadecimal.decode? (Hexadecimal.encode (drawNonce random).1)).filter _ = _
    rw [Hexadecimal.decode?_encode, Option.filter_some, if_pos (by simpa using size)]

end Request

/-! ## Uses of a store -/

inductive Use where
  | operate (operation : Credentials.Operation)
  | post (settings : Settings) (address : Address) (childId : String) (random : Octets)

namespace Use

variable {σ : Type} [Backend σ]

def perform (use : Use) (store : σ) : Option String × σ :=
  match use with
  | .operate operation => (none, operation.step store)
  | .post settings address childId random =>
      match Request.prepare settings address childId store random with
      | (.ok request, store, _) => (some request.text, store)
      | (.error _, store, _) => (none, store)

def run : List Use → σ → List String × σ
  | [], store => ([], store)
  | use :: rest, store =>
      let (body, store) := use.perform store
      let (bodies, store) := run rest store
      (body.toList ++ bodies, store)

theorem store_run_append (front rest : List Use) (store : σ) :
    (run (front ++ rest) store).2 = (run rest (run front store).2).2 := by
  induction front generalizing store with
  | nil => rfl
  | cons use others induction => exact induction (use.perform store).2

variable [Honest σ]

def Vouches (id : String) (body : String) : Prop :=
  ∃ request, Request.ofOctets? (Octets.ofText body) = some request ∧ request.IsProven ∧
    request.deviceId = id

theorem continues_perform (use : Use) {store : σ} (paired : Paired (shelf store)) :
    Continues (shelf store) (shelf (use.perform store).2) ∧
      ∀ body ∈ (use.perform store).1,
        ∃ id, HasId id (shelf (use.perform store).2) ∧ Vouches id body := by
  cases use with
  | operate operation => exact ⟨Credentials.continues_step operation paired, nofun⟩
  | post settings address childId random =>
      have spec := Request.prepare_spec settings address childId random paired
      unfold perform
      dsimp only
      generalize Request.prepare settings address childId store random = answer at spec
      rcases answer with ⟨failure | request, after, rest⟩
      case error => exact ⟨spec.1, nofun⟩
      case ok =>
        refine ⟨spec.1, ?_⟩
        rintro _ ⟨⟩
        rcases spec.2 request rfl with ⟨proven, hasId⟩
        exact ⟨request.deviceId, hasId, request, request.ofOctets?_text, proven, rfl⟩

theorem continues_run (uses : List Use) {store : σ} (paired : Paired (shelf store)) :
    Continues (shelf store) (shelf (run uses store).2) ∧
      ∀ body ∈ (run uses store).1,
        ∃ id, HasId id (shelf (run uses store).2) ∧ Vouches id body := by
  induction uses generalizing store with
  | nil => exact ⟨.of_same paired fun _ _ => rfl, nofun⟩
  | cons use rest induction =>
      have first := use.continues_perform paired
      have others := induction first.1.paired
      refine ⟨first.1.trans others.1, ?_⟩
      intro body member
      rcases List.mem_append.mp member with now | later
      · rcases first.2 body (Option.mem_toList.mp now) with ⟨id, hasId, vouches⟩
        exact ⟨id, others.1.hasId hasId, vouches⟩
      · exact others.2 body later

/-- The identity does not drift in the course of some uses of a store. -/
structure KeepsIdentity (uses : List Use) (store : σ) : Prop where
  kept : ∀ front rest, uses = front ++ rest → ∀ cell ∈ identityCells, ∀ octets,
    (shelf (run front store).2).look cell.location = some octets →
      (shelf (run uses store).2).look cell.location = some octets
  paired : ∀ octets,
    (shelf (run uses store).2).look Cell.secret.location = some octets →
      ∃ id, (shelf (run uses store).2).look Cell.deviceId.location = some (Octets.ofText id) ∧
        octets = Octets.ofText (Secret.derive id).hex
  vouched : ∀ body ∈ (run uses store).1, ∃ request,
    Request.ofOctets? (Octets.ofText body) = some request ∧ request.IsProven ∧
      (shelf (run uses store).2).look Cell.deviceId.location =
        some (Octets.ofText request.deviceId)

/-- The identity does not drift, whatever becomes of the single calls, unless a secret was
there before the first use. So it does not from an empty store on, nor from one on that
holds an id and nothing else. -/
theorem keepsIdentity_run (uses : List Use) (store : σ)
    (noSecret : (shelf store).look Cell.secret.location = none) : KeepsIdentity uses store := by
  have start : Paired (shelf store) := by
    intro octets stored
    rw [noSecret] at stored
    cases stored
  have whole := continues_run uses start
  constructor
  case kept =>
    rintro front rest rfl cell member octets stored
    have before := continues_run front start
    have after := continues_run rest before.1.paired
    rw [store_run_append]
    exact after.1.kept cell member octets stored
  case paired => exact whole.1.paired
  case vouched =>
    intro body posted
    rcases whole.2 body posted with ⟨_, hasId, request, read, proven, rfl⟩
    exact ⟨request, read, proven, hasId⟩

def exampleStore : Monitored Memory := { store := {}, writesToFailure := 3 }

def exampleUses : List Use :=
  [.operate (.loadSecret ⟨[0x02, 0, 0, 0, 0, 1], rfl⟩), .operate .factoryReset,
    .post {} ⟨[0x02, 0, 0, 0, 0, 2], rfl⟩ "child" []]

theorem keepsIdentity_example :
    (shelf (run (exampleUses.take 1) exampleStore).2).look Cell.deviceId.location =
        some (Octets.ofText "020000000001") ∧
      (shelf (run (exampleUses.take 1) exampleStore).2).look Cell.secret.location = none ∧
        KeepsIdentity exampleUses exampleStore :=
  ⟨by decide +kernel, by decide +kernel, keepsIdentity_run exampleUses exampleStore rfl⟩

end Use

end Claim

end DeviceAuth
