import DeviceAuth.Proofs.Storage.Honest
import DeviceAuth.Proofs.Storage.Spaces

/-! What a grant leaves in the store. As long as writes succeed, the tokens of a grant are
in their cells once it was kept, and whatever else is stored with it lies elsewhere; the
expiry comes with the record. -/

namespace DeviceAuth

/-! ## Programs that leave a location alone -/

def Program.LeavesAlone {α : Type} (location : Location) : Program α → Prop
  | .done _ => True
  | .get _ next => ∀ answer, (next answer).LeavesAlone location
  | .set other _ next => location ≠ other ∧ ∀ answer, (next answer).LeavesAlone location
  | .remove other next => location ≠ other ∧ ∀ answer, (next answer).LeavesAlone location
  | .commit _ next => ∀ answer, (next answer).LeavesAlone location

namespace Program

variable {α β : Type} {location : Location}

theorem LeavesAlone.bind {program : Program α} {continuation : α → Program β}
    (first : program.LeavesAlone location)
    (second : ∀ result, (continuation result).LeavesAlone location) :
    (program >>= continuation).LeavesAlone location := by
  show (program.bind continuation).LeavesAlone location
  induction program with
  | done result => exact second result
  | get other next induction => exact fun answer => induction answer (first answer)
  | set other value next induction =>
      exact ⟨first.1, fun answer => induction answer (first.2 answer)⟩
  | remove other next induction =>
      exact ⟨first.1, fun answer => induction answer (first.2 answer)⟩
  | commit space next induction => exact fun answer => induction answer (first answer)

theorem StaysWithin.leavesAlone {program : Program α} {space : String}
    (within : program.StaysWithin space) (elsewhere : location.space ≠ space) :
    program.LeavesAlone location := by
  have other : ∀ {used : Location}, used.space = space → location ≠ used := by
    rintro used same rfl
    exact elsewhere same
  induction program with
  | done result => trivial
  | get used next induction => exact fun answer => induction answer (within.2 answer)
  | set used value next induction =>
      exact ⟨other within.1, fun answer => induction answer (within.2 answer)⟩
  | remove used next induction =>
      exact ⟨other within.1, fun answer => induction answer (within.2 answer)⟩
  | commit used next induction => exact fun answer => induction answer (within.2 answer)

end Program

namespace Action

variable {α β : Type} {location : Location}

def LeavesAlone (location : Location) (action : Action α) : Prop :=
  Program.LeavesAlone location action.run

theorem LeavesAlone.bind {action : Action α} {continuation : α → Action β}
    (first : LeavesAlone location action)
    (second : ∀ result, LeavesAlone location (continuation result)) :
    LeavesAlone location (action >>= continuation) := by
  apply Program.LeavesAlone.bind first
  intro result
  cases result with
  | ok value => exact second value
  | error failure => trivial

theorem leavesAlone_commit (location : Location) (space : String) :
    LeavesAlone location (commit space) := fun _ => trivial

end Action

theorem Cell.leavesAlone_write {cell other : Cell} (different : cell ≠ other) (value : Octets) :
    Action.LeavesAlone cell.location (other.write value) :=
  ⟨fun same => different (location_injective same), fun _ => trivial⟩

theorem Honours.look_eq {σ α : Type} {shelf : σ → Shelf} {canRead canWrite able : σ → Prop}
    {before : σ} {real : Except StoreFailure α × σ} {ideal : Except StoreFailure α × Shelf}
    (honours : Honours shelf canRead canWrite able before real ideal) {location : Location}
    (same : ideal.2.look location = (shelf before).look location) :
    (shelf real.2).look location = (shelf before).look location := by
  rcases honours.outcome with ⟨_, done⟩ | ⟨_, kept⟩
  · rw [done, same]
  · rw [kept]

namespace Honest

variable {α β σ : Type} [Backend σ] [Honest σ] {store : σ}

theorem look_run {location : Location} {program : Program α}
    (alone : program.LeavesAlone location) (store : σ) :
    (shelf (program.run store).2).look location = (shelf store).look location := by
  induction program generalizing store with
  | done result => rfl
  | get other next induction =>
      exact (induction _ (alone _) _).trans ((get other store).look_eq rfl)
  | set other value next induction =>
      have kept := (set other value store).look_eq (Shelf.look_set_other alone.1 value _)
      exact (induction _ (alone.2 _) _).trans kept
  | remove other next induction =>
      have kept := (remove other store).look_eq (Shelf.look_put_other alone.1 none _)
      exact (induction _ (alone.2 _) _).trans kept
  | commit space next induction =>
      exact (induction _ (alone _) _).trans ((commit space store).look_eq rfl)

variable {value : Octets}

theorem perform_write (canWrite : CanWrite store) (small : value.length ≤ Backend.greatestValue)
    (cell : Cell) : ((cell.write value).perform store).1 = .ok () ∧
      (shelf ((cell.write value).perform store).2).look cell.location = some value := by
  have done := (set cell.location value store).able canWrite
  have put : (cell.write value).perform (shelf store) = _ := Cell.perform_write small
  constructor
  · exact done.1.trans (congrArg Prod.fst put)
  · have moved : shelf ((cell.write value).perform store).2 = _ :=
      done.2.trans (congrArg Prod.snd put)
    rw [moved, Shelf.look_put_same]

variable {cell : Cell}

theorem look_write_bind (canWrite : CanWrite store)
    (small : value.length ≤ Backend.greatestValue) {continuation : Unit → Action β}
    (alone : (continuation ()).LeavesAlone cell.location) :
    (shelf ((cell.write value >>= continuation).perform store).2).look cell.location =
      some value := by
  obtain ⟨done, written⟩ := perform_write canWrite small cell
  rw [Action.perform_bind_of_ok (Prod.ext done rfl)]
  exact (look_run alone _).trans written

theorem perform_write_bind (canWrite : CanWrite store)
    (small : value.length ≤ Backend.greatestValue) (continuation : Unit → Action β) :
    (cell.write value >>= continuation).perform store =
      (continuation ()).perform ((cell.write value).perform store).2 := by
  rw [Action.perform_bind_of_ok (Prod.ext (perform_write canWrite small cell).1 rfl)]

end Honest

/-! ## Tokens -/

namespace Credentials

open DeviceAuth.Action (LeavesAlone leavesAlone_commit)
open Cell (leavesAlone_write)
open Honest (CanWrite shelf look_run look_write_bind perform_write_bind)

variable {σ : Type} [Backend σ] [Honest σ] {store : σ}

theorem look_refreshToken_saveTokens (canWrite : CanWrite store) {access refresh : String}
    (accessFits : access.utf8ByteSize ≤ Backend.greatestValue)
    (refreshFits : refresh.utf8ByteSize ≤ Backend.greatestValue) :
    (shelf ((saveTokens access refresh).perform store).2).look Cell.refreshToken.location =
      some (Octets.ofText refresh) := by
  have canWriteAfter := Honest.canWrite_run
    (Cell.accessToken.write (Octets.ofText access)).run canWrite
  have small : (Octets.ofText access).length ≤ Backend.greatestValue := accessFits
  unfold saveTokens Cell.writeText
  rw [perform_write_bind canWrite small]
  exact look_write_bind canWriteAfter refreshFits (leavesAlone_commit _ _)

variable {record : TokenRecord}

theorem leavesAlone_saveIds {cell : Cell} (notDevice : cell ≠ .tokenDeviceId)
    (notChild : cell ≠ .tokenChildId) : LeavesAlone cell.location (do
      Cell.tokenDeviceId.writeText record.deviceId
      Cell.tokenChildId.writeText record.childId
      Action.commit Cell.tokens) := by
  apply LeavesAlone.bind (leavesAlone_write notDevice _)
  intro _
  apply LeavesAlone.bind (leavesAlone_write notChild _)
  intro _
  exact leavesAlone_commit _ _

theorem look_accessToken_saveRecord (canWrite : CanWrite store)
    (fits : record.token.utf8ByteSize ≤ Backend.greatestValue) :
    (shelf ((saveRecord record).perform store).2).look Cell.accessToken.location =
      some (Octets.ofText record.token) := by
  apply look_write_bind canWrite fits
  apply LeavesAlone.bind (leavesAlone_write (by decide) _)
  intro _
  exact leavesAlone_saveIds (by decide) (by decide)

theorem look_tokenExpiry_saveRecord (canWrite : CanWrite store)
    (fits : record.token.utf8ByteSize ≤ Backend.greatestValue) :
    (shelf ((saveRecord record).perform store).2).look Cell.tokenExpiry.location =
      some (Octets.ofWord record.expiry) := by
  have canWriteAfter := Honest.canWrite_run
    (Cell.accessToken.write (Octets.ofText record.token)).run canWrite
  have small : (Octets.ofText record.token).length ≤ Backend.greatestValue := fits
  have expirySmall : (Octets.ofWord record.expiry).length ≤ Backend.greatestValue := by
    rw [Octets.length_ofWord]
    decide
  unfold saveRecord Cell.writeText
  rw [perform_write_bind canWrite small]
  exact look_write_bind canWriteAfter expirySmall (leavesAlone_saveIds (by decide) (by decide))

theorem leavesAlone_saveRecord (record : TokenRecord) :
    LeavesAlone Cell.refreshToken.location (saveRecord record) := by
  apply LeavesAlone.bind (leavesAlone_write (by decide) _)
  intro _
  apply LeavesAlone.bind (leavesAlone_write (by decide) _)
  intro _
  exact leavesAlone_saveIds (by decide) (by decide)

end Credentials

theorem Device.staysWithin_tokenIds (address : Address) :
    (tokenIds address).StaysWithin Cell.credentials := by
  apply Program.StaysWithin.bind (Credentials.staysWithin_loadDeviceId address)
  intro deviceId
  apply Program.StaysWithin.bind (Cell.staysWithin_readAs _ .childId)
  intro childId
  trivial

structure Claim.Grant.Fits (grant : Claim.Grant) : Prop where
  accessToken : grant.accessToken.utf8ByteSize ≤ Backend.greatestValue
  refreshToken : grant.refreshToken.utf8ByteSize ≤ Backend.greatestValue

theorem Claim.Grant.look_refreshToken_keep {σ : Type} [Backend σ] [Honest σ] {store : σ}
    (canWrite : Honest.CanWrite store) {grant : Claim.Grant} (fits : grant.Fits)
    (settings : Settings) :
    (Honest.shelf ((grant.keep settings).perform store).2).look Cell.refreshToken.location =
      some (Octets.ofText grant.refreshToken) := by
  have others : (performAll (grant.artifacts settings).tail).LeavesAlone
      Cell.refreshToken.location :=
    (staysWithin_performAll (staysWithin_artifacts settings grant)).leavesAlone (by decide)
  refine (congrArg (fun after => (Honest.shelf after).look _) (store_performAll _ _ store)).trans ?_
  refine (Honest.look_run others _).trans ?_
  exact Credentials.look_refreshToken_saveTokens canWrite fits.accessToken fits.refreshToken

end DeviceAuth
