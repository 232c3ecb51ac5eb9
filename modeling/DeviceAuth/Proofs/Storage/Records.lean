import DeviceAuth.Device.Token
import DeviceAuth.Proofs.Storage.Reliable
import Mathlib.Data.String.Basic

/-! The record of the token in the store. What was saved on a reliable store is loaded
again, and what is loaded from it could be saved. -/

namespace DeviceAuth

open DeviceAuth.Action (OnlyReads perform_bind perform_bind_ok perform_bind_of_ok perform_pure)

/-! ## Cells -/

namespace Cell

variable {cell : Cell} {shelf : Shelf}

theorem refusal?_eq_none {value : Octets} (small : value.length ≤ Backend.greatestValue) :
    Backend.refusal? cell.location value = none :=
  (Backend.refusal?_eq_none_iff _ _).mpr ⟨cell.key_size.1, cell.key_size.2, small⟩

theorem perform_write {value : Octets} (small : value.length ≤ Backend.greatestValue) :
    (cell.write value).perform shelf = (.ok (), shelf.put cell.location (some value)) :=
  Shelf.set_eq (refusal?_eq_none small) shelf

theorem perform_writeText {text : String}
    (small : text.utf8ByteSize ≤ Backend.greatestValue) :
    (cell.writeText text).perform shelf =
      (.ok (), shelf.put cell.location (some (Octets.ofText text))) :=
  perform_write small

theorem perform_readAs {α : Type} (decode? : Octets → Option α) (cell : Cell)
    (shelf : Shelf) :
    (cell.readAs decode?).perform shelf =
      (match shelf.look cell.location with
        | none => .ok none
        | some octets =>
            match decode? octets with
            | some value => .ok (some value)
            | none => .error (.corrupt cell.location), shelf) := by
  have read : cell.read.perform shelf = (.ok (shelf.look cell.location), shelf) := rfl
  unfold readAs
  rw [perform_bind, read]
  dsimp only
  cases shelf.look cell.location with
  | none => rfl
  | some octets =>
      dsimp only
      cases decode? octets with
      | none => rfl
      | some value => rfl

theorem perform_readAs_some {α : Type} {decode? : Octets → Option α} {octets : Octets}
    {value : α} (found : shelf.look cell.location = some octets)
    (decoded : decode? octets = some value) :
    (cell.readAs decode?).perform shelf = (.ok (some value), shelf) := by
  rw [perform_readAs, found]
  simp only [decoded]

theorem readAs_eq_some {α : Type} {decode? : Octets → Option α} {value : α} {after : Shelf}
    (performed : (cell.readAs decode?).perform shelf = (.ok (some value), after)) :
    ∃ octets, shelf.look cell.location = some octets ∧ decode? octets = some value := by
  rw [perform_readAs] at performed
  have result := congrArg Prod.fst performed
  dsimp only at result
  cases found : shelf.look cell.location with
  | none => simp [found] at result
  | some octets =>
      cases decoded : decode? octets with
      | none => simp [found, decoded] at result
      | some given =>
          simp only [found, decoded, Except.ok.injEq] at result
          exact ⟨octets, rfl, result ▸ decoded⟩

theorem onlyReads_readAs {α : Type} (decode? : Octets → Option α) (cell : Cell) :
    OnlyReads (cell.readAs decode?) :=
  fun shelf => congrArg Prod.snd (perform_readAs decode? cell shelf)

theorem perform_clear (cell : Cell) (shelf : Shelf) :
    cell.clear.perform shelf = (.ok (), shelf.put cell.location none) := rfl

theorem look_clearAll_of_none {location : Location} (cells : List Cell)
    (empty : shelf.look location = none) :
    ((clearAll cells).perform shelf).2.look location = none := by
  induction cells generalizing shelf with
  | nil => exact empty
  | cons cell rest induction =>
      rw [clearAll, perform_bind_of_ok (perform_clear cell shelf)]
      apply induction
      by_cases same : location = cell.location
      · rw [same, Shelf.look_put_same]
      · rw [Shelf.look_put_other same, empty]

theorem look_clearAll {cells : List Cell} (member : cell ∈ cells) (shelf : Shelf) :
    ((clearAll cells).perform shelf).2.look cell.location = none := by
  induction member generalizing shelf with
  | head rest =>
      rw [clearAll, perform_bind_of_ok (perform_clear cell shelf)]
      exact look_clearAll_of_none rest (Shelf.look_put_same _ _ shelf)
  | @tail first rest _ induction =>
      rw [clearAll, perform_bind_of_ok (perform_clear first shelf)]
      exact induction _

theorem size_of_readText (fits : shelf.Fits) {text : String} {after : Shelf}
    (performed : cell.readText.perform shelf = (.ok (some text), after)) :
    text.utf8ByteSize ≤ Backend.greatestValue := by
  obtain ⟨octets, found, decoded⟩ := readAs_eq_some performed
  have small := fits cell.location octets found
  rw [← Octets.ofText_of_toText? decoded, Octets.length_ofText] at small
  exact small

theorem size_of_readText? (fits : shelf.Fits) {text : Option String} {after : Shelf}
    (performed : cell.readText.perform shelf = (.ok text, after)) :
    (text.getD "").utf8ByteSize ≤ Backend.greatestValue := by
  cases text with
  | none => exact Nat.zero_le _
  | some text => exact size_of_readText fits performed

end Cell

/-! ## Records -/

structure TokenRecord.Fits (record : TokenRecord) : Prop where
  token : record.token.utf8ByteSize ≤ Backend.greatestValue
  deviceId : record.deviceId.utf8ByteSize ≤ Backend.greatestValue
  childId : record.childId.utf8ByteSize ≤ Backend.greatestValue

namespace Credentials

theorem token_of_loadRecord {σ : Type} [Backend σ] {store after : σ} {record : TokenRecord}
    (loaded : loadRecord.perform store = (.ok (some record), after)) :
    record.token.isEmpty = false := by
  unfold loadRecord at loaded
  obtain ⟨token, _, _, rest⟩ := perform_bind_ok loaded
  cases token with
  | none => simp [perform_pure] at rest
  | some token =>
      dsimp only at rest
      split at rest
      next => simp [perform_pure] at rest
      next given =>
        obtain ⟨expiry, _, _, rest⟩ := perform_bind_ok rest
        cases expiry with
        | none => simp [perform_pure] at rest
        | some expiry =>
            obtain ⟨deviceId, _, _, rest⟩ := perform_bind_ok rest
            obtain ⟨childId, _, _, rest⟩ := perform_bind_ok rest
            simp only [perform_pure, Prod.mk.injEq, Except.ok.injEq, Option.some.injEq] at rest
            rw [← rest.1]
            simpa using given

theorem onlyReads_loadRecord : OnlyReads loadRecord := by
  apply OnlyReads.bind (Cell.onlyReads_readAs _ _)
  intro token
  cases token with
  | none => exact .pure none
  | some token =>
      dsimp only
      split
      next => exact .pure none
      next =>
        apply OnlyReads.bind (Cell.onlyReads_readAs _ _)
        intro expiry
        cases expiry with
        | none => exact .pure none
        | some expiry =>
            apply OnlyReads.bind (Cell.onlyReads_readAs _ _)
            intro deviceId
            apply OnlyReads.bind (Cell.onlyReads_readAs _ _)
            intro childId
            exact .pure _

theorem fits_of_loadRecord {shelf : Shelf} (fits : shelf.Fits) {record : TokenRecord}
    (loaded : (loadRecord.perform shelf).1 = .ok (some record)) : record.Fits := by
  have performed : loadRecord.perform shelf = (.ok (some record), shelf) :=
    Prod.ext loaded (onlyReads_loadRecord shelf)
  unfold loadRecord at performed
  obtain ⟨token, readToken, rest⟩ := (Cell.onlyReads_readAs _ _).perform_bind_ok performed
  cases token with
  | none => simp [perform_pure] at rest
  | some token =>
      dsimp only at rest
      split at rest
      next => simp [perform_pure] at rest
      next =>
        obtain ⟨expiry, _, rest⟩ := (Cell.onlyReads_readAs _ _).perform_bind_ok rest
        cases expiry with
        | none => simp [perform_pure] at rest
        | some expiry =>
            obtain ⟨deviceId, readDeviceId, rest⟩ :=
              (Cell.onlyReads_readAs _ _).perform_bind_ok rest
            obtain ⟨childId, readChildId, rest⟩ :=
              (Cell.onlyReads_readAs _ _).perform_bind_ok rest
            simp only [perform_pure, Prod.mk.injEq, Except.ok.injEq, Option.some.injEq] at rest
            obtain ⟨rfl, _⟩ := rest
            exact {
              token := Cell.size_of_readText fits readToken
              deviceId := Cell.size_of_readText? fits readDeviceId
              childId := Cell.size_of_readText? fits readChildId }

structure Shows (record : TokenRecord) (shelf : Shelf) : Prop where
  token : shelf.look Cell.accessToken.location = some (Octets.ofText record.token)
  expiry : shelf.look Cell.tokenExpiry.location = some (Octets.ofWord record.expiry)
  deviceId : shelf.look Cell.tokenDeviceId.location = some (Octets.ofText record.deviceId)
  childId : shelf.look Cell.tokenChildId.location = some (Octets.ofText record.childId)

theorem loadRecord_of_shows {shelf : Shelf} {record : TokenRecord}
    (given : record.token.isEmpty = false) (shows_ : Shows record shelf) :
    (loadRecord.perform shelf).1 = .ok (some record) := by
  have token := Cell.perform_readAs_some shows_.token (Octets.toText?_ofText record.token)
  have expiry := Cell.perform_readAs_some shows_.expiry (Octets.toWord?_ofWord record.expiry)
  have deviceId := Cell.perform_readAs_some shows_.deviceId (Octets.toText?_ofText record.deviceId)
  have childId := Cell.perform_readAs_some shows_.childId (Octets.toText?_ofText record.childId)
  unfold loadRecord Cell.readText
  rw [perform_bind_of_ok token]
  dsimp only
  rw [if_neg (by simp [given]), perform_bind_of_ok expiry]
  dsimp only
  rw [perform_bind_of_ok deviceId, perform_bind_of_ok childId]
  rfl

theorem loadRecord_of_missing {shelf : Shelf}
    (missing : shelf.look Cell.accessToken.location = none) :
    (loadRecord.perform shelf).1 = .ok none := by
  have read : Cell.accessToken.readText.perform shelf = (.ok none, shelf) := by
    rw [Cell.readText, Cell.perform_readAs, missing]
  rw [loadRecord, perform_bind_of_ok read]
  rfl

theorem loadRecord_clearTokens (shelf : Shelf) :
    (loadRecord.perform (clearTokens.perform shelf).2).1 = .ok none := by
  have member : Cell.accessToken ∈ tokenCells := .head _
  have cleared := Cell.look_clearAll member shelf
  apply loadRecord_of_missing
  rw [clearTokens, perform_bind]
  split
  next performed =>
    rw [performed] at cleared
    exact cleared
  next performed =>
    rw [performed] at cleared
    exact cleared

theorem loadRecord_of_empty {shelf : Shelf} {token : String} (empty : token.isEmpty = true)
    (found : shelf.look Cell.accessToken.location = some (Octets.ofText token)) :
    (loadRecord.perform shelf).1 = .ok none := by
  have read := Cell.perform_readAs_some found (Octets.toText?_ofText token)
  unfold loadRecord Cell.readText
  rw [perform_bind_of_ok read]
  dsimp only
  rw [if_pos empty]
  rfl

theorem look_saveTokens {access : String}
    (small : access.utf8ByteSize ≤ Backend.greatestValue) (refresh : String) (shelf : Shelf) :
    ((saveTokens access refresh).perform shelf).2.look Cell.accessToken.location =
      some (Octets.ofText access) := by
  let written := shelf.put Cell.accessToken.location (some (Octets.ofText access))
  have refreshed : ((Cell.refreshToken.writeText refresh).perform written).2.look
      Cell.accessToken.location = some (Octets.ofText access) := by
    refine (Shelf.look_set_other ?_ _ written).trans (Shelf.look_put_same _ _ shelf)
    decide
  unfold saveTokens
  rw [perform_bind_of_ok (Cell.perform_writeText small), perform_bind]
  split
  next performed =>
    rw [performed] at refreshed
    exact refreshed
  next performed =>
    rw [performed] at refreshed
    exact refreshed

theorem shows_saveRecord {record : TokenRecord} (fits : record.Fits) (shelf : Shelf) :
    Shows record ((saveRecord record).perform shelf).2 := by
  have small : (Octets.ofWord record.expiry).length ≤ Backend.greatestValue := by
    rw [Octets.length_ofWord]
    decide
  unfold saveRecord
  rw [perform_bind_of_ok (Cell.perform_writeText fits.token),
    perform_bind_of_ok (Cell.perform_write small),
    perform_bind_of_ok (Cell.perform_writeText fits.deviceId),
    perform_bind_of_ok (Cell.perform_writeText fits.childId)]
  -- The cells differ, so no part is written over another.
  constructor
  · rfl
  · rfl
  · rfl
  · rfl

theorem loadRecord_saveRecord {record : TokenRecord} (given : record.token.isEmpty = false)
    (fits : record.Fits) (shelf : Shelf) :
    (loadRecord.perform ((saveRecord record).perform shelf).2).1 = .ok (some record) :=
  loadRecord_of_shows given (shows_saveRecord fits shelf)

end Credentials

/-! ## Ids -/

theorem Text.size_ofList_le (characters : List Char) :
    (String.ofList characters).utf8ByteSize ≤ 4 * characters.length := by
  rw [String.utf8ByteSize_ofList]
  induction characters with
  | nil => exact Nat.zero_le _
  | cons character rest induction =>
      have size := character.utf8Size_le_four
      rw [String.utf8Len_cons, List.length_cons]
      omega

theorem Hexadecimal.length_characters (letters : Case) (octets : Octets) :
    (characters letters octets).length = 2 * octets.length := by
  simp [characters, ofOctet, List.length_flatMap, Nat.mul_comm]

theorem Address.size_deviceId_le (address : Address) :
    address.deviceId.utf8ByteSize ≤ Backend.greatestValue := by
  have size := Text.size_ofList_le (Hexadecimal.characters .upper address.octets)
  rw [Hexadecimal.length_characters, address.size] at size
  exact Nat.le_trans size (by decide)

namespace Credentials

theorem size_of_loadDeviceId (address : Address) {shelf after : Shelf} (fits : shelf.Fits)
    {id : String} (loaded : (loadDeviceId address).perform shelf = (.ok id, after)) :
    id.utf8ByteSize ≤ Backend.greatestValue := by
  unfold loadDeviceId at loaded
  obtain ⟨stored, read, rest⟩ := (Cell.onlyReads_readAs _ _).perform_bind_ok loaded
  cases stored with
  | some stored =>
      dsimp only at rest
      split at rest
      next =>
        obtain rfl : stored = id := by
          simpa [perform_pure] using congrArg Prod.fst rest
        exact Cell.size_of_readText fits read
      next => cases rest
  | none =>
      obtain ⟨_, _, _, rest⟩ := perform_bind_ok rest
      obtain ⟨_, _, _, rest⟩ := perform_bind_ok rest
      obtain rfl : address.deviceId = id := by
        simpa [perform_pure] using congrArg Prod.fst rest
      exact address.size_deviceId_le

end Credentials

namespace Device

theorem fits_tokenIds (address : Address) {shelf : Shelf} (fits : shelf.Fits) :
    ((tokenIds address).run shelf).1.1.utf8ByteSize ≤ Backend.greatestValue ∧
      ((tokenIds address).run shelf).1.2.utf8ByteSize ≤ Backend.greatestValue := by
  have moved := fits.run (Credentials.loadDeviceId address).run
  unfold tokenIds
  rw [Program.run_bind, Program.run_bind]
  constructor
  · cases loaded : ((Credentials.loadDeviceId address).run.run shelf).1 with
    | error failure => exact address.size_deviceId_le
    | ok id => exact Credentials.size_of_loadDeviceId address fits (Prod.ext loaded rfl)
  · cases loaded : (Credentials.loadChildId.run.run
      ((Credentials.loadDeviceId address).run.run shelf).2).1 with
    | error failure => exact Nat.zero_le _
    | ok id => exact Cell.size_of_readText? moved (Prod.ext loaded rfl)

end Device

end DeviceAuth
