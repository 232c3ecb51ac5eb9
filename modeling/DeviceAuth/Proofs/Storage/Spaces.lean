import DeviceAuth.Claim.Effort
import DeviceAuth.Proofs.Storage.Reliable

/-! The namespaces that operations use. An operation that stays within one namespace
leaves what is in the others as it is, and only depends on what is in its own. -/

namespace DeviceAuth

/-! ## Programs -/

namespace Program

variable {α β : Type} {space : String}

def StaysWithin (space : String) : Program α → Prop
  | .done _ => True
  | .get location next => location.space = space ∧ ∀ answer, (next answer).StaysWithin space
  | .set location _ next => location.space = space ∧ ∀ answer, (next answer).StaysWithin space
  | .remove location next => location.space = space ∧ ∀ answer, (next answer).StaysWithin space
  | .commit committed next => committed = space ∧ ∀ answer, (next answer).StaysWithin space

theorem StaysWithin.bind {program : Program α} {continuation : α → Program β}
    (first : program.StaysWithin space)
    (second : ∀ result, (continuation result).StaysWithin space) :
    (program.bind continuation).StaysWithin space := by
  induction program with
  | done result => exact second result
  | get location next induction => exact ⟨first.1, fun answer => induction answer (first.2 answer)⟩
  | set location value next induction =>
      exact ⟨first.1, fun answer => induction answer (first.2 answer)⟩
  | remove location next induction =>
      exact ⟨first.1, fun answer => induction answer (first.2 answer)⟩
  | commit space next induction => exact ⟨first.1, fun answer => induction answer (first.2 answer)⟩

theorem StaysWithin.look_run {program : Program α} (within : program.StaysWithin space)
    {location : Location} (elsewhere : location.space ≠ space) (shelf : Shelf) :
    (program.run shelf).2.look location = shelf.look location := by
  have untouched : ∀ {other : Location}, other.space = space → location ≠ other := by
    rintro other same rfl
    exact elsewhere same
  induction program generalizing shelf with
  | done result => rfl
  | get other next induction => exact induction _ (within.2 _) shelf
  | set other value next induction =>
      refine (induction _ (within.2 _) _).trans ?_
      exact Shelf.look_set_other (untouched within.1) value shelf
  | remove other next induction =>
      refine (induction _ (within.2 _) _).trans ?_
      exact Shelf.look_put_other (untouched within.1) _ shelf
  | commit committed next induction => exact induction _ (within.2 _) shelf

theorem StaysWithin.result_run {program : Program α} (within : program.StaysWithin space)
    {left right : Shelf}
    (same : ∀ location, location.space = space → left.look location = right.look location) :
    (program.run left).1 = (program.run right).1 := by
  induction program generalizing left right with
  | done result => rfl
  | get location next induction =>
      simp only [run, Shelf.get_eq, same location within.1]
      exact induction _ (within.2 _) same
  | set location value next induction =>
      cases answer : Backend.refusal? location value with
      | some reason =>
          simp only [run, Shelf.set_refused answer]
          exact induction _ (within.2 _) same
      | none =>
          simp only [run, Shelf.set_eq answer]
          exact induction _ (within.2 _) fun other inside =>
            Shelf.look_put_congr (same other inside) location (some value)
  | remove location next induction =>
      exact induction _ (within.2 _) fun other inside =>
        Shelf.look_put_congr (same other inside) location none
  | commit committed next induction => exact induction _ (within.2 _) same

end Program

/-! ## Actions -/

namespace Action

variable {α β : Type} {space : String}

def StaysWithin (space : String) (action : Action α) : Prop :=
  Program.StaysWithin space action.run

theorem StaysWithin.pure (value : α) : StaysWithin space (Pure.pure value : Action α) := trivial

theorem StaysWithin.throw (failure : StoreFailure) :
    StaysWithin space (MonadExcept.throw failure : Action α) := trivial

theorem StaysWithin.bind {action : Action α} {continuation : α → Action β}
    (first : StaysWithin space action)
    (second : ∀ result, StaysWithin space (continuation result)) :
    StaysWithin space (action >>= continuation) := by
  apply Program.StaysWithin.bind first
  intro result
  cases result with
  | ok value => exact second value
  | error failure => trivial

end Action

namespace Cell

theorem staysWithin_write (cell : Cell) (value : Octets) :
    Action.StaysWithin cell.location.space (cell.write value) := ⟨rfl, fun _ => trivial⟩

theorem staysWithin_readAs {α : Type} (decode? : Octets → Option α) (cell : Cell) :
    Action.StaysWithin cell.location.space (cell.readAs decode?) := by
  have read : Action.StaysWithin cell.location.space cell.read := ⟨rfl, fun _ => trivial⟩
  apply read.bind
  intro found
  cases found with
  | none => exact .pure none
  | some octets =>
      dsimp only
      split
      next value _ => exact .pure (some value)
      next => exact .throw _

end Cell

theorem Action.staysWithin_commit (space : String) :
    Action.StaysWithin space (Action.commit space) := ⟨rfl, fun _ => trivial⟩

/-! ## Credentials -/

namespace Credentials

open DeviceAuth.Action (StaysWithin staysWithin_commit)
open Cell (credentials tokens staysWithin_readAs staysWithin_write)

theorem staysWithin_loadDeviceId (address : Address) :
    StaysWithin credentials (loadDeviceId address) := by
  apply StaysWithin.bind (staysWithin_readAs _ .deviceId)
  intro stored
  cases stored with
  | some id =>
      dsimp only
      split
      · exact .pure id
      · exact .throw _
  | none =>
      apply StaysWithin.bind (staysWithin_write .deviceId _)
      intro _
      apply StaysWithin.bind (staysWithin_commit credentials)
      intro _
      exact .pure _

theorem staysWithin_loadSecret (address : Address) :
    StaysWithin credentials (loadSecret address) := by
  apply StaysWithin.bind (staysWithin_readAs _ .secret)
  intro stored
  cases stored with
  | some text =>
      dsimp only
      split
      next secret _ => exact .pure secret
      next => exact .throw _
  | none =>
      apply StaysWithin.bind (staysWithin_loadDeviceId address)
      intro id
      apply StaysWithin.bind (staysWithin_write .secret _)
      intro _
      apply StaysWithin.bind (staysWithin_commit credentials)
      intro _
      exact .pure _

theorem staysWithin_loadIdentity (address : Address) :
    StaysWithin credentials (loadIdentity address) := by
  apply StaysWithin.bind (staysWithin_loadDeviceId address)
  intro id
  apply StaysWithin.bind (staysWithin_loadSecret address)
  intro secret
  exact .pure _

theorem staysWithin_save (cell : Cell) (value : Octets) :
    StaysWithin cell.location.space
      (do
        cell.write value
        Action.commit cell.location.space) := by
  apply StaysWithin.bind (staysWithin_write cell value)
  intro _
  exact staysWithin_commit cell.location.space

theorem staysWithin_savePairingCode (code : String) :
    StaysWithin credentials (savePairingCode code) :=
  staysWithin_save .pairingCode _

theorem staysWithin_savePayload (payload : Json.Value) :
    StaysWithin credentials (savePayload payload) :=
  staysWithin_save .payload _

theorem staysWithin_saveDeviceConfig (config : Json.Value) :
    StaysWithin credentials (saveDeviceConfig config) :=
  staysWithin_save .deviceConfig _

theorem staysWithin_loadRecord : StaysWithin tokens loadRecord := by
  apply StaysWithin.bind (staysWithin_readAs _ .accessToken)
  intro token
  cases token with
  | none => exact .pure none
  | some token =>
      dsimp only
      split
      next => exact .pure none
      next =>
        apply StaysWithin.bind (staysWithin_readAs _ .tokenExpiry)
        intro expiry
        cases expiry with
        | none => exact .pure none
        | some expiry =>
            apply StaysWithin.bind (staysWithin_readAs _ .tokenDeviceId)
            intro deviceId
            apply StaysWithin.bind (staysWithin_readAs _ .tokenChildId)
            intro childId
            exact .pure _

theorem loadRecord_of_staysWithin {α : Type} {program : Program α}
    (within : program.StaysWithin credentials) (shelf : Shelf) :
    (loadRecord.perform (program.run shelf).2).1 = (loadRecord.perform shelf).1 := by
  apply staysWithin_loadRecord.result_run
  intro location inside
  apply within.look_run
  rw [inside]
  decide

end Credentials

/-! ## Grants -/

namespace Claim

theorem store_performAll {σ : Type} [Backend σ] (action : Action Unit)
    (rest : List (Action Unit)) (store : σ) :
    ((Grant.performAll (action :: rest)).run store).2 =
      ((Grant.performAll rest).run (action.perform store).2).2 := by
  rw [Grant.performAll, Program.run_bind, Program.run_bind]
  split
  next => rfl
  next => rfl

theorem staysWithin_performAll {space : String} {actions : List (Action Unit)}
    (within : ∀ action ∈ actions, action.StaysWithin space) :
    (Grant.performAll actions).StaysWithin space := by
  induction actions with
  | nil => trivial
  | cons action rest induction =>
      apply Program.StaysWithin.bind (within action (.head rest))
      intro first
      apply Program.StaysWithin.bind
        (induction fun other member => within other (.tail action member))
      intro others
      cases first with
      | ok => trivial
      | error failure => trivial

theorem staysWithin_artifacts (settings : Settings) (grant : Grant) :
    ∀ action ∈ (grant.artifacts settings).tail, action.StaysWithin Cell.credentials := by
  intro action member
  simp only [Grant.artifacts, List.tail_cons, List.mem_append, Option.mem_toList,
    Option.map_eq_some_iff] at member
  rcases member with (⟨code, _, rfl⟩ | ⟨payload, _, rfl⟩) | ⟨config, _, rfl⟩
  · exact Credentials.staysWithin_savePairingCode code
  · exact Credentials.staysWithin_savePayload payload
  · exact Credentials.staysWithin_saveDeviceConfig _

end Claim

end DeviceAuth
