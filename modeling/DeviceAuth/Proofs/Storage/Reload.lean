import DeviceAuth.Proofs.Storage.Interruption

/-! Loading the identity again. An identity can be loaded as long as every cell can be read. It
is stored from then on, whether it was found or derived, so it is the same whenever it is loaded,
and the store stays as it is. -/

namespace DeviceAuth

theorem Program.LeavesAlone.look_run {α : Type} {location : Location} {program : Program α}
    (alone : program.LeavesAlone location) (shelf : Shelf) :
    (program.run shelf).2.look location = shelf.look location :=
  Honest.look_run alone shelf

instance : Candid Shelf where
  get _ _ _ failed := by cases failed
  set location value shelf _ failed := by
    cases answer : Backend.refusal? location value with
    | some reason =>
        rw [Shelf.set_refused answer] at failed
        cases failed
    | none =>
        rw [Shelf.set_eq answer] at failed
        cases failed
  remove _ _ _ failed := by cases failed
  commit _ _ _ failed := by cases failed

theorem Secret.size_hex_le (secret : Secret) :
    secret.hex.utf8ByteSize ≤ Backend.greatestValue := by
  have size := Text.size_ofList_le (Hexadecimal.characters .lower secret.octets)
  rw [Hexadecimal.length_characters, secret.size] at size
  exact Nat.le_trans size (by decide)

namespace Credentials

open DeviceAuth.Action (perform_bind_of_ok perform_bind_ok)

variable {address : Address} {shelf after : Shelf} {id : String} {secret : Secret}

def HoldsText (cell : Cell) (text : String) (shelf : Shelf) : Prop :=
  shelf.look cell.location = some (Octets.ofText text)

theorem HoldsText.run {α : Type} {cell : Cell} {text : String} {program : Program α}
    (holds : HoldsText cell text shelf) (alone : program.LeavesAlone cell.location) :
    HoldsText cell text (program.run shelf).2 :=
  (alone.look_run shelf).trans holds

theorem perform_readText {cell : Cell} {text : String} (holds : HoldsText cell text shelf) :
    cell.readText.perform shelf = (.ok (some text), shelf) :=
  Cell.perform_readAs_some holds (Octets.toText?_ofText text)

theorem holdsText_of_readText {cell : Cell} {text : String}
    (performed : cell.readText.perform shelf = (.ok (some text), after)) :
    after = shelf ∧ HoldsText cell text shelf := by
  obtain ⟨octets, found, decoded⟩ := Cell.readAs_eq_some performed
  have same := Cell.onlyReads_readAs Octets.toText? cell shelf
  rw [Cell.readText] at performed
  rw [performed] at same
  refine ⟨same, ?_⟩
  rw [HoldsText, found, Octets.ofText_of_toText? decoded]

theorem eq_put_of_writeText {cell : Cell} {text : String}
    (performed : (cell.writeText text).perform shelf = (.ok (), after)) :
    after = shelf.put cell.location (some (Octets.ofText text)) := by
  rcases Honest.write_cases cell (Octets.ofText text) shelf with put | ⟨⟨_, failed⟩, _⟩
  · exact (congrArg Prod.snd performed).symm.trans put
  · rw [Cell.writeText] at performed
    rw [performed] at failed
    cases failed

theorem loadDeviceId_of_holds (holds : HoldsText .deviceId id shelf)
    (valid : DeviceId.isValid id = true) :
    (loadDeviceId address).perform shelf = (.ok id, shelf) := by
  unfold loadDeviceId
  rw [perform_bind_of_ok (perform_readText holds)]
  dsimp only
  rw [if_pos valid]
  rfl

theorem holds_of_loadDeviceId (loaded : (loadDeviceId address).perform shelf = (.ok id, after)) :
    HoldsText .deviceId id after ∧ DeviceId.isValid id = true := by
  unfold loadDeviceId at loaded
  obtain ⟨found, middle, read, rest⟩ := perform_bind_ok loaded
  cases found with
  | some stored =>
      obtain ⟨rfl, holds⟩ := holdsText_of_readText read
      dsimp only at rest
      split at rest
      next valid =>
        obtain ⟨same, rfl⟩ := Prod.mk.inj rest
        obtain rfl := Except.ok.inj same
        exact ⟨holds, valid⟩
      next => cases rest
  | none =>
      obtain ⟨_, written, write, rest⟩ := perform_bind_ok rest
      obtain rfl := eq_put_of_writeText write
      obtain ⟨same, rfl⟩ := Prod.mk.inj rest
      obtain rfl := Except.ok.inj same
      exact ⟨Shelf.look_put_same _ _ _, address.isValid_deviceId⟩

theorem loadSecret_of_holds {text : String} (holds : HoldsText .secret text shelf)
    (read : Secret.ofHex? text = some secret) :
    (loadSecret address).perform shelf = (.ok secret, shelf) := by
  unfold loadSecret
  rw [perform_bind_of_ok (perform_readText holds)]
  dsimp only
  rw [read]
  rfl

theorem holds_of_loadSecret (holds : HoldsText .deviceId id shelf)
    (valid : DeviceId.isValid id = true)
    (loaded : (loadSecret address).perform shelf = (.ok secret, after)) :
    HoldsText .deviceId id after ∧
      ∃ text, HoldsText .secret text after ∧ Secret.ofHex? text = some secret := by
  unfold loadSecret at loaded
  obtain ⟨found, middle, read, rest⟩ := perform_bind_ok loaded
  cases found with
  | some text =>
      obtain ⟨rfl, stored⟩ := holdsText_of_readText read
      dsimp only at rest
      split at rest
      next known =>
        obtain ⟨same, rfl⟩ := Prod.mk.inj rest
        obtain rfl := Except.ok.inj same
        exact ⟨holds, text, stored, known⟩
      next => cases rest
  | none =>
      have unchanged := Cell.onlyReads_readAs Octets.toText? .secret shelf
      rw [Cell.readText] at read
      rw [read] at unchanged
      obtain rfl : middle = shelf := unchanged
      dsimp only at rest
      rw [perform_bind_of_ok (loadDeviceId_of_holds holds valid)] at rest
      obtain ⟨_, written, write, rest⟩ := perform_bind_ok rest
      obtain rfl := eq_put_of_writeText write
      obtain ⟨same, rfl⟩ := Prod.mk.inj rest
      obtain rfl := Except.ok.inj same
      have other : Cell.deviceId.location ≠ Cell.secret.location := by decide
      exact ⟨(Shelf.look_put_other other _ _).trans holds, _, Shelf.look_put_same _ _ _,
        Secret.ofHex?_hex _⟩

theorem holds_of_loadIdentity (loaded : (loadIdentity address).perform shelf =
    (.ok (id, secret), after)) :
    ((loadDeviceId address).perform shelf).1 = .ok id ∧ HoldsText .deviceId id after ∧
      DeviceId.isValid id = true ∧
      ∃ text, HoldsText .secret text after ∧ Secret.ofHex? text = some secret := by
  unfold loadIdentity at loaded
  obtain ⟨id, named, first, rest⟩ := perform_bind_ok loaded
  obtain ⟨secret, final, second, rest⟩ := perform_bind_ok rest
  obtain ⟨same, rfl⟩ := Prod.mk.inj rest
  cases same
  obtain ⟨holds, valid⟩ := holds_of_loadDeviceId first
  obtain ⟨still, stored⟩ := holds_of_loadSecret holds valid second
  exact ⟨congrArg Prod.fst first, still, valid, stored⟩

theorem loadIdentity_again {identity : String × Secret}
    (loaded : (loadIdentity address).perform shelf = (.ok identity, after)) :
    (loadIdentity address).perform after = (.ok identity, after) := by
  obtain ⟨_, holdsId, valid, text, holdsSecret, read⟩ := holds_of_loadIdentity loaded
  unfold loadIdentity
  rw [perform_bind_of_ok (loadDeviceId_of_holds holdsId valid),
    perform_bind_of_ok (loadSecret_of_holds holdsSecret read)]
  rfl

theorem writesOnly_loadIdentity (address : Address) :
    (loadIdentity address).WritesOnly identityCells := by
  have writes : (loadIdentity address).WritesOnly
      ([.deviceId] ++ ([.deviceId, .secret] ++ [])) := by
    apply (writesOnly_loadDeviceId address).bind
    intro id
    apply (writesOnly_loadSecret address).bind
    intro secret
    exact .pure (id, secret)
  exact writes.mono (by decide)

/-! ## Identities that can be loaded -/

theorem held_perform {α : Type} {good : α → Prop} {action : Action α}
    (held : Contract.readable.Held shelf) (keeps : action.Keeps .readable good) :
    Contract.readable.Held (action.perform shelf).2 := by
  have before : Contract.readable.Held (Honest.shelf shelf) := held
  exact (Honest.keeps_run Contract.bounds_readable keeps before).2

theorem perform_readText_none {cell : Cell} (empty : shelf.look cell.location = none) :
    cell.readText.perform shelf = (.ok none, shelf) := by
  rw [Cell.readText, Cell.perform_readAs, empty]

theorem loadDeviceId_of_none (empty : shelf.look Cell.deviceId.location = none) :
    (loadDeviceId address).perform shelf = (.ok address.deviceId,
      shelf.put Cell.deviceId.location (some (Octets.ofText address.deviceId))) := by
  unfold loadDeviceId
  rw [perform_bind_of_ok (perform_readText_none empty)]
  dsimp only
  rw [perform_bind_of_ok (Cell.perform_writeText address.size_deviceId_le)]
  rfl

theorem holdsText_of_held (held : Contract.readable.Held shelf) {octets : Octets}
    (found : shelf.look Cell.deviceId.location = some octets) :
    ∃ id, octets = Octets.ofText id ∧ DeviceId.isValid id = true := by
  obtain ⟨⟨id, decoded, valid⟩, _⟩ := held .deviceId octets found
  exact ⟨id, (Octets.ofText_of_toText? decoded).symm, valid⟩

theorem exists_loadDeviceId (held : Contract.readable.Held shelf) :
    ∃ id after, (loadDeviceId address).perform shelf = (.ok id, after) := by
  cases found : shelf.look Cell.deviceId.location with
  | none => exact ⟨_, _, loadDeviceId_of_none found⟩
  | some octets =>
      obtain ⟨id, rfl, valid⟩ := holdsText_of_held held found
      exact ⟨id, shelf, loadDeviceId_of_holds found valid⟩

theorem result_loadDeviceId {left right : Shelf} (held : Contract.readable.Held left)
    (same : right.look Cell.deviceId.location = left.look Cell.deviceId.location) :
    ((loadDeviceId address).perform right).1 = ((loadDeviceId address).perform left).1 := by
  cases found : left.look Cell.deviceId.location with
  | none => rw [loadDeviceId_of_none found, loadDeviceId_of_none (same.trans found)]
  | some octets =>
      obtain ⟨id, rfl, valid⟩ := holdsText_of_held held found
      rw [loadDeviceId_of_holds found valid, loadDeviceId_of_holds (same.trans found) valid]

theorem exists_loadSecret (held : Contract.readable.Held shelf)
    (holds : HoldsText .deviceId id shelf) (valid : DeviceId.isValid id = true) :
    ∃ secret after, (loadSecret address).perform shelf = (.ok secret, after) := by
  cases found : shelf.look Cell.secret.location with
  | none =>
      have small := (Secret.derive id).size_hex_le
      refine ⟨Secret.derive id,
        shelf.put Cell.secret.location (some (Octets.ofText (Secret.derive id).hex)), ?_⟩
      unfold loadSecret
      rw [perform_bind_of_ok (perform_readText_none found)]
      dsimp only
      rw [perform_bind_of_ok (loadDeviceId_of_holds holds valid),
        perform_bind_of_ok (Cell.perform_writeText small)]
      rfl
  | some octets =>
      obtain ⟨⟨text, decoded, known⟩, _⟩ := held .secret octets found
      obtain ⟨secret, read⟩ := Option.isSome_iff_exists.mp known
      have stored : HoldsText .secret text shelf := by
        rw [HoldsText, found, Octets.ofText_of_toText? decoded]
      exact ⟨secret, shelf, loadSecret_of_holds stored read⟩

theorem exists_loadIdentity (address : Address) (held : Contract.readable.Held shelf) :
    ∃ identity after, (loadIdentity address).perform shelf = (.ok identity, after) := by
  obtain ⟨id, named, first⟩ := exists_loadDeviceId held
  obtain ⟨holds, valid⟩ := holds_of_loadDeviceId first
  have still := held_perform held (keeps_loadDeviceId Contract.serves_readable address)
  rw [first] at still
  obtain ⟨secret, after, second⟩ := exists_loadSecret still holds valid
  refine ⟨(id, secret), after, ?_⟩
  unfold loadIdentity
  rw [perform_bind_of_ok first, perform_bind_of_ok second]
  rfl

end Credentials

end DeviceAuth
