import DeviceAuth.Proofs.Storage.Operations

/-! The identity of a device. Its id and its secret are derived when they are first needed,
one after the other, and each write may fail. Since the secret is only ever derived from an
id that is already stored, and neither is written again, both always belong together, and
the server can check whatever the device claims with them. -/

namespace DeviceAuth

/-! ## Secrets as text -/

namespace Text

theorem dropWhile_isBlank {characters : List Char}
    (solid : ∀ character ∈ characters, isBlank character = false) :
    characters.dropWhile isBlank = characters := by
  cases characters with
  | nil => rfl
  | cons first rest =>
      apply List.dropWhile_cons_of_neg
      rw [solid first (.head rest)]
      decide

theorem trim_ofList {characters : List Char}
    (solid : ∀ character ∈ characters, isBlank character = false) :
    trim (String.ofList characters) = String.ofList characters := by
  have backwards : ∀ character ∈ characters.reverse, isBlank character = false :=
    fun character member => solid character (List.mem_reverse.mp member)
  rw [trim, String.toList_ofList, trimCharacters, dropWhile_isBlank solid,
    dropWhile_isBlank backwards, List.reverse_reverse]

end Text

theorem Hexadecimal.exists_digit_of_mem {letters : Case} {octets : Octets} {character : Char}
    (member : character ∈ characters letters octets) :
    ∃ value : Fin 16, character = digit letters value := by
  rcases List.mem_flatMap.mp member with ⟨octet, _, either⟩
  have bound := octet.toNat_lt
  simp only [ofOctet, List.mem_cons, List.not_mem_nil, or_false] at either
  rcases either with rfl | rfl
  · exact ⟨⟨octet.toNat / 16, by omega⟩, rfl⟩
  · exact ⟨⟨octet.toNat % 16, by omega⟩, rfl⟩

theorem Hexadecimal.isBlank_of_mem {letters : Case} {octets : Octets} {character : Char}
    (member : character ∈ characters letters octets) : Text.isBlank character = false := by
  have every : ∀ letters : Case, ∀ value : Fin 16,
      Text.isBlank (digit letters value) = false := by
    intro letters
    cases letters <;> decide
  obtain ⟨value, rfl⟩ := exists_digit_of_mem member
  exact every letters value

theorem Secret.ofHex?_hex (secret : Secret) : ofHex? secret.hex = some secret := by
  have trimmed : Text.trim secret.hex = secret.hex :=
    Text.trim_ofList fun _ member => Hexadecimal.isBlank_of_mem member
  rw [ofHex?, trimmed, hex, Hexadecimal.decode?_encode, Option.bind_some, ofOctets?,
    dif_pos secret.size]

/-! ## Single calls -/

namespace Honest

variable {α σ : Type} [Backend σ] [Honest σ]

theorem shelf_get (location : Location) (store : σ) :
    shelf (Backend.get location store).2 = shelf store := by
  rcases (get location store).outcome with ⟨_, same⟩ | ⟨_, same⟩
  · exact same
  · exact same

theorem shelf_commit (space : String) (store : σ) :
    shelf ((Action.commit space).perform store).2 = shelf store := by
  rcases (commit space store).outcome with ⟨_, same⟩ | ⟨_, same⟩
  · exact same
  · exact same

theorem write_cases (cell : Cell) (value : Octets) (store : σ) :
    shelf ((cell.write value).perform store).2 =
        (shelf store).put cell.location (some value) ∨
      (∃ failure, ((cell.write value).perform store).1 = .error failure) ∧
        shelf ((cell.write value).perform store).2 = shelf store := by
  rcases (set cell.location value store).outcome with ⟨same, put⟩ | failed
  · cases answer : Backend.refusal? cell.location value with
    | none =>
        rw [Shelf.set_eq answer] at put
        exact .inl put
    | some reason =>
        rw [Shelf.set_refused answer] at same put
        exact .inr ⟨⟨_, same⟩, put⟩
  · exact .inr failed

theorem readAs_cases (decode? : Octets → Option α) (cell : Cell) (store : σ) :
    shelf ((cell.readAs decode?).perform store).2 = shelf store ∧
      (((cell.readAs decode?).perform store).1 =
          ((cell.readAs decode?).perform (shelf store)).1 ∨
        ∃ failure, ((cell.readAs decode?).perform store).1 = .error failure) := by
  have read : cell.read.perform store = Backend.get cell.location store := rfl
  have kept := shelf_get cell.location store
  have outcome := (get cell.location store).outcome
  rw [Cell.perform_readAs]
  unfold Cell.readAs
  rw [Action.perform_bind, read]
  rcases answer : Backend.get cell.location store with ⟨failure | found, after⟩
  case error =>
    rw [answer] at kept
    exact ⟨kept, .inr ⟨failure, rfl⟩⟩
  case ok =>
    rw [answer] at kept outcome
    rcases outcome with ⟨same, _⟩ | ⟨⟨_, failed⟩, _⟩
    · rw [← Except.ok.inj same]
      cases found with
      | none => exact ⟨kept, .inl rfl⟩
      | some octets =>
          dsimp only
          cases decode? octets with
          | none => exact ⟨kept, .inl rfl⟩
          | some value => exact ⟨kept, .inl rfl⟩
    · cases failed

theorem look_of_readAs_none {decode? : Octets → Option α} {cell : Cell} {store after : σ}
    (performed : (cell.readAs decode?).perform store = (.ok none, after)) :
    (shelf store).look cell.location = none := by
  rcases (readAs_cases decode? cell store).2 with same | ⟨failure, failed⟩
  · rw [performed, Cell.perform_readAs] at same
    cases found : (shelf store).look cell.location with
    | none => rfl
    | some octets =>
        rw [found] at same
        dsimp only at same
        split at same
        next => cases same
        next => cases same
  · rw [performed] at failed
    cases failed

theorem look_of_readAs_some {decode? : Octets → Option α} {cell : Cell} {store after : σ}
    {value : α} (performed : (cell.readAs decode?).perform store = (.ok (some value), after)) :
    ∃ octets, (shelf store).look cell.location = some octets ∧ decode? octets = some value := by
  rcases (readAs_cases decode? cell store).2 with same | ⟨failure, failed⟩
  · rw [performed] at same
    exact Cell.readAs_eq_some (Prod.ext same.symm rfl)
  · rw [performed] at failed
    cases failed

end Honest

/-! ## What belongs together -/

namespace Credentials

def HasId (id : String) (shelf : Shelf) : Prop :=
  shelf.look Cell.deviceId.location = some (Octets.ofText id)

theorem HasId.unique {first second : String} {shelf : Shelf} (left : HasId first shelf)
    (right : HasId second shelf) : first = second :=
  Octets.ofText_injective (Option.some.inj (left.symm.trans right))

def Paired (shelf : Shelf) : Prop :=
  ∀ octets, shelf.look Cell.secret.location = some octets →
    ∃ id, HasId id shelf ∧ octets = Octets.ofText (Secret.derive id).hex

/-- What was stored of the identity is still there, and belongs together. -/
structure Continues (before after : Shelf) : Prop where
  kept : ∀ cell ∈ identityCells, ∀ octets, before.look cell.location = some octets →
    after.look cell.location = some octets
  paired : Paired after

namespace Continues

variable {before middle after : Shelf}

theorem of_same (paired : Paired before)
    (same : ∀ cell ∈ identityCells, after.look cell.location = before.look cell.location) :
    Continues before after := by
  have deviceId := same .deviceId (by decide)
  constructor
  case kept =>
    intro cell member octets stored
    rw [same cell member, stored]
  case paired =>
    intro octets stored
    rw [same .secret (by decide)] at stored
    rcases paired octets stored with ⟨id, hasId, derived⟩
    exact ⟨id, deviceId.trans hasId, derived⟩

theorem trans (first : Continues before middle) (second : Continues middle after) :
    Continues before after where
  kept cell member octets stored :=
    second.kept cell member octets (first.kept cell member octets stored)
  paired := second.paired

theorem hasId (continues : Continues before after) {id : String} (stored : HasId id before) :
    HasId id after :=
  continues.kept .deviceId (by decide) _ stored

theorem putDeviceId (paired : Paired before)
    (empty : before.look Cell.deviceId.location = none) (value : Octets) :
    Continues before (before.put Cell.deviceId.location (some value)) := by
  have noSecret : before.look Cell.secret.location = none := by
    cases stored : before.look Cell.secret.location with
    | none => rfl
    | some octets =>
        rcases paired octets stored with ⟨id, hasId, _⟩
        rw [HasId, empty] at hasId
        cases hasId
  have other : Cell.secret.location ≠ Cell.deviceId.location := by decide
  constructor
  case kept =>
    intro cell member octets stored
    rw [Shelf.look_put_other _ _ before, stored]
    rintro same
    rw [same, empty] at stored
    cases stored
  case paired =>
    intro octets stored
    rw [Shelf.look_put_other other, noSecret] at stored
    cases stored

theorem putSecret (empty : before.look Cell.secret.location = none) {id : String}
    (hasId : HasId id before) :
    Continues before
      (before.put Cell.secret.location (some (Octets.ofText (Secret.derive id).hex))) := by
  have other : Cell.deviceId.location ≠ Cell.secret.location := by decide
  constructor
  case kept =>
    intro cell member octets stored
    rw [Shelf.look_put_other _ _ before, stored]
    rintro same
    rw [same, empty] at stored
    cases stored
  case paired =>
    intro octets stored
    rw [Shelf.look_put_same] at stored
    exact ⟨id, (Shelf.look_put_other other _ before).trans hasId, (Option.some.inj stored).symm⟩

end Continues

/-! ## Loading the identity -/

variable {σ α β : Type} [Backend σ] [Honest σ] {store : σ}

open Honest (shelf)

/-- The identity continues over an action, and what the action answers is as it should be. -/
structure Delivers (good : α → Shelf → Prop) (store : σ) (answer : Except StoreFailure α × σ) :
    Prop where
  continues : Continues (shelf store) (shelf answer.2)
  good : ∀ value, answer.1 = .ok value → good value (shelf answer.2)

theorem Delivers.bind {action : Action α} {continuation : α → Action β}
    {first : α → Shelf → Prop} {second : β → Shelf → Prop}
    (delivers : Delivers first store (action.perform store))
    (goesOn : ∀ value (middle : σ), Paired (shelf middle) → first value (shelf middle) →
      Delivers second middle ((continuation value).perform middle)) :
    Delivers second store ((action >>= continuation).perform store) := by
  rw [Action.perform_bind]
  generalize action.perform store = answer at delivers
  rcases answer with ⟨failure | value, middle⟩
  case error => exact ⟨delivers.continues, nofun⟩
  case ok =>
    have rest := goesOn value middle delivers.continues.paired (delivers.good value rfl)
    exact ⟨delivers.continues.trans rest.continues, rest.good⟩

theorem delivers_pure (paired : Paired (shelf store)) {value : α} {good : α → Shelf → Prop}
    (fine : good value (shelf store)) :
    Delivers good store ((pure value : Action α).perform store) where
  continues := .of_same paired fun _ _ => rfl
  good := by
    rintro _ ⟨⟩
    exact fine

theorem delivers_throw (paired : Paired (shelf store)) (failure : StoreFailure)
    (good : α → Shelf → Prop) :
    Delivers good store ((throw failure : Action α).perform store) where
  continues := .of_same paired fun _ _ => rfl
  good := nofun

def Finds (decode? : Octets → Option α) (cell : Cell) (found : Option α) (shelf : Shelf) : Prop :=
  match found with
  | none => shelf.look cell.location = none
  | some value => ∃ octets, shelf.look cell.location = some octets ∧ decode? octets = some value

theorem delivers_readAs (paired : Paired (shelf store)) (decode? : Octets → Option α)
    (cell : Cell) :
    Delivers (Finds decode? cell) store ((cell.readAs decode?).perform store) := by
  have same := (Honest.readAs_cases decode? cell store).1
  constructor
  case continues =>
    apply Continues.of_same paired
    intro other _
    rw [same]
  case good =>
    intro found answered
    rw [same]
    cases found with
    | none => exact Honest.look_of_readAs_none (Prod.ext answered rfl)
    | some value => exact Honest.look_of_readAs_some (Prod.ext answered rfl)

theorem delivers_write {cell : Cell} {value : Octets} (paired : Paired (shelf store))
    (continues : Continues (shelf store) ((shelf store).put cell.location (some value))) :
    Delivers (fun _ after => after = (shelf store).put cell.location (some value)) store
      ((cell.write value).perform store) := by
  rcases Honest.write_cases cell value store with put | ⟨⟨failure, failed⟩, kept⟩
  · exact ⟨put ▸ continues, fun _ _ => put⟩
  · constructor
    case continues =>
      apply Continues.of_same paired
      intro other _
      rw [kept]
    case good =>
      rw [failed]
      nofun

theorem delivers_commit (paired : Paired (shelf store)) (space : String) :
    Delivers (fun _ after => after = shelf store) store ((Action.commit space).perform store) := by
  have same := Honest.shelf_commit space store
  refine ⟨.of_same paired ?_, fun _ _ => same⟩
  intro other _
  rw [same]

theorem delivers_derived {cell : Cell} {octets : Octets} (paired : Paired (shelf store))
    (continues : Continues (shelf store) ((shelf store).put cell.location (some octets)))
    {value : α} {good : α → Shelf → Prop}
    (fine : good value ((shelf store).put cell.location (some octets))) :
    Delivers good store ((do
      cell.write octets
      Action.commit Cell.credentials
      pure value : Action α).perform store) := by
  apply Delivers.bind (delivers_write paired continues)
  intro _ written paired put
  apply Delivers.bind (delivers_commit paired Cell.credentials)
  intro _ committed paired same
  apply delivers_pure paired
  rw [same, put]
  exact fine

theorem delivers_loadDeviceId (address : Address) (paired : Paired (shelf store)) :
    Delivers HasId store ((loadDeviceId address).perform store) := by
  apply Delivers.bind (delivers_readAs paired Octets.toText? .deviceId)
  intro found middle paired finds
  cases found with
  | none =>
      exact delivers_derived paired (.putDeviceId paired finds _) (Shelf.look_put_same _ _ _)
  | some id =>
      rcases finds with ⟨octets, stored, decoded⟩
      dsimp only
      split
      next =>
        apply delivers_pure paired
        exact stored.trans (congrArg some (Octets.ofText_of_toText? decoded).symm)
      next => exact delivers_throw paired _ _

def HasSecret (secret : Secret) (shelf : Shelf) : Prop :=
  ∃ id, HasId id shelf ∧ secret = Secret.derive id

theorem delivers_loadSecret (address : Address) (paired : Paired (shelf store)) :
    Delivers HasSecret store ((loadSecret address).perform store) := by
  apply Delivers.bind (delivers_readAs paired Octets.toText? .secret)
  intro found middle paired finds
  cases found with
  | none =>
      have loaded := delivers_loadDeviceId address paired
      have apart : (shelf ((loadDeviceId address).perform middle).2).look Cell.secret.location =
          (shelf middle).look Cell.secret.location :=
        Honest.look_run (writesOnly_loadDeviceId address .secret (by decide)) middle
      have delivers : Delivers (fun id shelf => HasId id shelf ∧
          shelf.look Cell.secret.location = none) middle ((loadDeviceId address).perform middle) :=
        ⟨loaded.continues, fun id given => ⟨loaded.good id given, apart.trans finds⟩⟩
      apply Delivers.bind delivers
      rintro id named paired ⟨hasId, empty⟩
      apply delivers_derived paired (.putSecret empty hasId)
      exact ⟨id, (Continues.putSecret empty hasId).hasId hasId, rfl⟩
  | some text =>
      rcases finds with ⟨octets, stored, decoded⟩
      rcases paired octets stored with ⟨id, hasId, derived⟩
      have same : text = (Secret.derive id).hex :=
        Octets.ofText_injective ((Octets.ofText_of_toText? decoded).trans derived)
      dsimp only
      rw [same, Secret.ofHex?_hex]
      exact delivers_pure paired ⟨id, hasId, rfl⟩

theorem delivers_loadIdentity (address : Address) (paired : Paired (shelf store)) :
    Delivers (fun identity shelf => HasId identity.1 shelf ∧ identity.2 = Secret.derive identity.1)
      store ((loadIdentity address).perform store) := by
  apply Delivers.bind (delivers_loadDeviceId address paired)
  intro id named paired hasId
  have loaded := delivers_loadSecret address paired
  have delivers : Delivers (fun secret shelf => HasId id shelf ∧ secret = Secret.derive id) named
      ((loadSecret address).perform named) := by
    refine ⟨loaded.continues, fun secret given => ?_⟩
    rcases loaded.good secret given with ⟨other, otherId, derived⟩
    have still := loaded.continues.hasId hasId
    rw [still.unique otherId]
    exact ⟨otherId, derived⟩
  apply Delivers.bind delivers
  intro secret final paired fine
  exact delivers_pure paired fine

/-! ## Operations -/

theorem continues_step (operation : Operation) (paired : Paired (shelf store)) :
    Continues (shelf store) (shelf (operation.step store)) := by
  have elsewhere : (∀ cell ∈ identityCells, cell ∉ operation.cells) →
      Continues (shelf store) (shelf (operation.step store)) := by
    intro other
    exact .of_same paired fun cell member => Operation.look_step (other cell member) store
  have dropped : ∀ {α : Type} {action : Action α} {good : α → Shelf → Prop},
      Delivers good store (action.perform store) →
        Continues (shelf store) (shelf (action.dropResult.perform store).2) := by
    intro α action good delivers
    have rest : Delivers (fun _ _ => True) store (action.dropResult.perform store) :=
      delivers.bind fun _ _ paired _ => delivers_pure paired trivial
    exact rest.continues
  cases operation with
  | loadDeviceId address => exact dropped (delivers_loadDeviceId address paired)
  | loadSecret address => exact dropped (delivers_loadSecret address paired)
  | _ =>
      exact elsewhere (by
        simp [identityCells, Operation.cells, tokenCells, recordCells, detailsCells, pairingCells])

end Credentials

end DeviceAuth
