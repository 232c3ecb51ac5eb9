import DeviceAuth.Proofs.Storage.Identity
import DeviceAuth.Proofs.Storage.Writes
import DeviceAuth.Storage.Interruption

/-! Contracts about cells. Whoever uses a store may agree on what each cell is allowed to hold
and on the failures that may come up. A program keeps such a contract if it uses nothing but
the cells and writes only what fits, as long as it only finds what fits. The programs of a
contract may be performed in any order on an honest store, to their end or not: every cell
will hold what it is allowed to. -/

namespace DeviceAuth

/-- What each cell may hold, and which failures may come up. -/
structure Contract where
  fits : Cell → Octets → Prop
  tolerates : StoreFailure → Prop

namespace Contract

variable (contract : Contract)

def Answers {α : Type} (good : α → Prop) : Except StoreFailure α → Prop
  | .ok value => good value
  | .error failure => contract.tolerates failure

def anything : Contract := ⟨fun _ _ => True, fun _ => True⟩

def Finds (cell : Cell) (found : Option Octets) : Prop :=
  ∀ octets, found = some octets → contract.fits cell octets

/-- What may be written to a cell: it fits, unless it is refused anyway. -/
def Takes (cell : Cell) (value : Octets) : Prop :=
  Backend.refusal? cell.location value = none → contract.fits cell value

def Held (shelf : Shelf) : Prop := ∀ cell : Cell, contract.Finds cell (shelf.look cell.location)

structure Bounds (σ : Type) [Backend σ] [Honest σ] : Prop where
  get : ∀ (cell : Cell) (store : σ), contract.Held (Honest.shelf store) →
    contract.Answers (fun _ => True) (Backend.get cell.location store).1
  set : ∀ location value (store : σ),
    contract.Answers (fun _ => True) (Backend.set location value store).1
  remove : ∀ location (store : σ),
    contract.Answers (fun _ => True) (Backend.remove location store).1
  commit : ∀ space (store : σ),
    contract.Answers (fun _ => True) (Backend.commit space store).1

end Contract

theorem Contract.Answers.of_anything {α : Type} {good : α → Prop}
    {answer : Except StoreFailure α} (fine : ∀ value, good value) :
    Contract.anything.Answers good answer := by
  cases answer with
  | ok value => exact fine value
  | error failure => trivial

/-! ## Programs -/

namespace Program

variable {α β : Type} {contract : Contract} {good : α → Prop}

def Keeps (contract : Contract) (good : α → Prop) : Program α → Prop
  | .done result => good result
  | .get location next => ∃ cell : Cell, location = cell.location ∧
      ∀ answer, contract.Answers (contract.Finds cell) answer → (next answer).Keeps contract good
  | .set location value next => ∃ cell : Cell, location = cell.location ∧
      contract.Takes cell value ∧
        ∀ answer, contract.Answers (fun _ => True) answer → (next answer).Keeps contract good
  | .remove location next => ∃ cell : Cell, location = cell.location ∧
      ∀ answer, contract.Answers (fun _ => True) answer → (next answer).Keeps contract good
  | .commit _ next =>
      ∀ answer, contract.Answers (fun _ => True) answer → (next answer).Keeps contract good

theorem Keeps.bind {program : Program α} {continuation : α → Program β} {better : β → Prop}
    (first : program.Keeps contract good)
    (second : ∀ result, good result → (continuation result).Keeps contract better) :
    (program >>= continuation).Keeps contract better := by
  show (program.bind continuation).Keeps contract better
  induction program with
  | done result => exact second result first
  | get location next induction =>
      obtain ⟨cell, same, rest⟩ := first
      exact ⟨cell, same, fun answer given => induction answer (rest answer given)⟩
  | set location value next induction =>
      obtain ⟨cell, same, takes, rest⟩ := first
      exact ⟨cell, same, takes, fun answer given => induction answer (rest answer given)⟩
  | remove location next induction =>
      obtain ⟨cell, same, rest⟩ := first
      exact ⟨cell, same, fun answer given => induction answer (rest answer given)⟩
  | commit space next induction =>
      exact fun answer given => induction answer (first answer given)

theorem Keeps.cut {program : Program α} (keeps : program.Keeps contract good) (calls : Nat) :
    (program.cut calls).Keeps contract fun result => ∀ value ∈ result, good value := by
  induction program generalizing calls with
  | done result =>
      rw [Program.cut]
      rintro _ ⟨⟩
      exact keeps
  | get location next induction =>
      cases calls with
      | zero => exact nofun
      | succ calls =>
          obtain ⟨cell, same, rest⟩ := keeps
          exact ⟨cell, same, fun answer given => induction answer (rest answer given) calls⟩
  | set location value next induction =>
      cases calls with
      | zero => exact nofun
      | succ calls =>
          obtain ⟨cell, same, takes, rest⟩ := keeps
          exact ⟨cell, same, takes,
            fun answer given => induction answer (rest answer given) calls⟩
  | remove location next induction =>
      cases calls with
      | zero => exact nofun
      | succ calls =>
          obtain ⟨cell, same, rest⟩ := keeps
          exact ⟨cell, same, fun answer given => induction answer (rest answer given) calls⟩
  | commit space next induction =>
      cases calls with
      | zero => exact nofun
      | succ calls => exact fun answer given => induction answer (keeps answer given) calls

end Program

/-! ## Performing what keeps a contract -/

namespace Contract

variable {contract : Contract}

theorem Held.put {shelf : Shelf} (held : contract.Held shelf) {cell : Cell}
    {value : Option Octets} (fits : contract.Finds cell value) :
    contract.Held (shelf.put cell.location value) := by
  intro other octets found
  by_cases same : other = cell
  · rw [same, Shelf.look_put_same] at found
    rw [same]
    exact fits octets found
  · rw [Shelf.look_put_other fun equal => same (Cell.location_injective equal)] at found
    exact held other octets found

theorem Held.set {shelf : Shelf} (held : contract.Held shelf) {cell : Cell} {value : Octets}
    (takes : contract.Takes cell value) :
    contract.Held (Backend.set cell.location value shelf).2 := by
  cases answer : Backend.refusal? cell.location value with
  | some reason =>
      rw [Shelf.set_refused answer]
      exact held
  | none =>
      rw [Shelf.set_eq answer]
      apply held.put
      rintro _ ⟨⟩
      exact takes answer

theorem held_of_empty {shelf : Shelf} (empty : ∀ location, shelf.look location = none) :
    contract.Held shelf := by
  intro cell octets found
  rw [empty] at found
  cases found

end Contract

theorem Honours.held {σ α : Type} {shelf : σ → Shelf} {canRead canWrite able : σ → Prop}
    {before : σ} {real : Except StoreFailure α × σ} {ideal : Except StoreFailure α × Shelf}
    {contract : Contract}
    (honours : Honours shelf canRead canWrite able before real ideal)
    (held : contract.Held (shelf before)) (done : contract.Held ideal.2) :
    contract.Held (shelf real.2) := by
  rcases honours.outcome with ⟨_, same⟩ | ⟨_, same⟩
  · exact same ▸ done
  · exact same ▸ held

namespace Honest

variable {α σ : Type} [Backend σ] [Honest σ] {contract : Contract} {store : σ}

theorem finds_get (bounds : contract.Bounds σ) (held : contract.Held (shelf store))
    (cell : Cell) :
    contract.Answers (contract.Finds cell) (Backend.get cell.location store).1 := by
  have call := get cell.location store
  have tolerated := bounds.get cell store held
  cases answer : (Backend.get cell.location store).1 with
  | error failure =>
      rw [answer] at tolerated
      exact tolerated
  | ok found =>
      have same := (call.of_ok answer).1
      rw [answer] at same
      obtain rfl := Except.ok.inj same
      exact held cell

theorem keeps_run (bounds : contract.Bounds σ) {good : α → Prop} {program : Program α}
    (keeps : program.Keeps contract good) (held : contract.Held (shelf store)) :
    good (program.run store).1 ∧ contract.Held (shelf (program.run store).2) := by
  induction program generalizing store with
  | done result => exact ⟨keeps, held⟩
  | get location next induction =>
      obtain ⟨cell, rfl, rest⟩ := keeps
      exact induction _ (rest _ (finds_get bounds held cell))
        ((get cell.location store).held held held)
  | set location value next induction =>
      obtain ⟨cell, rfl, takes, rest⟩ := keeps
      exact induction _ (rest _ (bounds.set cell.location value store))
        ((set cell.location value store).held held (held.set takes))
  | remove location next induction =>
      obtain ⟨cell, rfl, rest⟩ := keeps
      exact induction _ (rest _ (bounds.remove cell.location store))
        ((remove cell.location store).held held (held.put nofun))
  | commit space next induction =>
      exact induction _ (keeps _ (bounds.commit space store))
        ((commit space store).held held held)

end Honest

/-! ## Actions -/

namespace Action

variable {α β : Type} {contract : Contract} {good : α → Prop}

def Keeps (contract : Contract) (good : α → Prop) (action : Action α) : Prop :=
  Program.Keeps contract (contract.Answers good) action.run

theorem Keeps.pure {value : α} (fine : good value) :
    Keeps contract good (Pure.pure value : Action α) := fine

theorem Keeps.throw {failure : StoreFailure} (tolerated : contract.tolerates failure) :
    Keeps contract good (MonadExcept.throw failure : Action α) := tolerated

theorem Keeps.bind {action : Action α} {continuation : α → Action β} {better : β → Prop}
    (first : action.Keeps contract good)
    (second : ∀ value, good value → (continuation value).Keeps contract better) :
    (action >>= continuation).Keeps contract better := by
  apply Program.Keeps.bind first
  intro result fine
  cases result with
  | ok value => exact second value fine
  | error failure => exact fine

theorem Keeps.mono {action : Action α} {weaker : α → Prop} (keeps : action.Keeps contract good)
    (implies : ∀ value, good value → weaker value) : action.Keeps contract weaker := by
  rw [← bind_pure action]
  exact keeps.bind fun value fine => .pure (implies value fine)

theorem Keeps.dropResult {action : Action α} (keeps : action.Keeps contract good) :
    action.dropResult.Keeps contract fun _ => True :=
  keeps.bind fun _ _ => .pure trivial

theorem keeps_commit (space : String) : (commit space).Keeps contract fun _ => True :=
  fun _ tolerated => tolerated

end Action

namespace Cell

open DeviceAuth.Action (Keeps keeps_commit)

variable {contract : Contract} {cell : Cell} {value : Octets}

theorem keeps_read (cell : Cell) : cell.read.Keeps contract (contract.Finds cell) :=
  ⟨cell, rfl, fun _ given => given⟩

theorem keeps_write (takes : contract.Takes cell value) :
    (cell.write value).Keeps contract fun _ => True :=
  ⟨cell, rfl, takes, fun _ tolerated => tolerated⟩

theorem keeps_save (takes : contract.Takes cell value) (space : String) :
    Keeps contract (fun _ => True) (do
      cell.write value
      Action.commit space) :=
  (keeps_write takes).bind fun _ _ => keeps_commit space

theorem keeps_clear (cell : Cell) : cell.clear.Keeps contract fun _ => True :=
  ⟨cell, rfl, fun _ tolerated => tolerated⟩

theorem keeps_clearAll (cells : List Cell) :
    (clearAll cells).Keeps contract fun _ => True := by
  induction cells with
  | nil => exact .pure trivial
  | cons cell rest induction => exact (keeps_clear cell).bind fun _ _ => induction

theorem keeps_readAs {α : Type} {decode? : Octets → Option α} {cell : Cell}
    (reads : ∀ octets, contract.fits cell octets →
      (decode? octets).isSome = true ∨ contract.tolerates (.corrupt cell.location)) :
    (cell.readAs decode?).Keeps contract fun found =>
      ∀ value ∈ found, ∃ octets, contract.fits cell octets ∧ decode? octets = some value := by
  apply (keeps_read cell).bind
  intro found fits
  cases found with
  | none => exact .pure nofun
  | some octets =>
      have read := reads octets (fits octets rfl)
      dsimp only
      cases decoded : decode? octets with
      | some value =>
          apply Keeps.pure
          rintro _ ⟨⟩
          exact ⟨octets, fits octets rfl, decoded⟩
      | none =>
          rw [decoded] at read
          exact .throw (read.resolve_left nofun)

/-! ## What can be read -/

def Reads : Cell → Octets → Prop
  | .deviceId, octets => ∃ id, Octets.toText? octets = some id ∧ DeviceId.isValid id = true
  | .secret, octets => ∃ text, Octets.toText? octets = some text ∧
      (Secret.ofHex? text).isSome = true
  | .payload, octets => (Credentials.payload? octets).isSome = true
  | .childAge, octets => (Credentials.age? octets).isSome = true
  | .deviceConfig, octets => (Json.Value.parse? octets).isSome = true
  | .tokenExpiry, octets => (Octets.toWord? octets).isSome = true
  | .network, octets => (Credentials.network? octets).isSome = true
  | _, octets => (Octets.toText? octets).isSome = true

end Cell

/-! ## Operations -/

/-- A contract under which the store can be used: what fits into a cell can be read, unless
it is tolerated that it cannot, and every identity that may be derived can be written. -/
structure Contract.Serves (contract : Contract) : Prop where
  reads : ∀ cell octets, contract.fits cell octets →
    cell.Reads octets ∨ contract.tolerates (.corrupt cell.location)
  deviceId : ∀ address : Address, contract.Takes .deviceId (Octets.ofText address.deviceId)
  secret : ∀ id, contract.Takes .secret (Octets.ofText (Secret.derive id).hex)

namespace Credentials

open DeviceAuth.Action (Keeps keeps_commit)
open Cell (keeps_read keeps_write keeps_save keeps_readAs keeps_clear keeps_clearAll)

variable {contract : Contract}

theorem keeps_loadDeviceId (serves : contract.Serves) (address : Address) :
    (loadDeviceId address).Keeps contract fun _ => True := by
  have reads : ∀ octets, contract.fits .deviceId octets →
      (Octets.toText? octets).isSome = true ∨
        contract.tolerates (.corrupt Cell.deviceId.location) := by
    intro octets fits
    rcases serves.reads .deviceId octets fits with ⟨id, decoded, _⟩ | tolerated
    · exact .inl (Option.isSome_of_eq_some decoded)
    · exact .inr tolerated
  apply (keeps_readAs reads).bind
  intro found given
  cases found with
  | some id =>
      dsimp only
      split
      next => exact .pure trivial
      next invalid =>
        obtain ⟨octets, fits, decoded⟩ := given id rfl
        rcases serves.reads .deviceId octets fits with ⟨same, again, valid⟩ | tolerated
        · obtain rfl := Option.some.inj (again.symm.trans decoded)
          exact absurd valid invalid
        · exact .throw tolerated
  | none =>
      apply (keeps_write (serves.deviceId address)).bind
      intro _ _
      apply (keeps_commit Cell.credentials).bind
      intro _ _
      exact .pure trivial

theorem keeps_loadSecret (serves : contract.Serves) (address : Address) :
    (loadSecret address).Keeps contract fun _ => True := by
  have reads : ∀ octets, contract.fits .secret octets →
      (Octets.toText? octets).isSome = true ∨
        contract.tolerates (.corrupt Cell.secret.location) := by
    intro octets fits
    rcases serves.reads .secret octets fits with ⟨text, decoded, _⟩ | tolerated
    · exact .inl (Option.isSome_of_eq_some decoded)
    · exact .inr tolerated
  apply (keeps_readAs reads).bind
  intro found given
  cases found with
  | some text =>
      dsimp only
      split
      next => exact .pure trivial
      next unread =>
        obtain ⟨octets, fits, decoded⟩ := given text rfl
        rcases serves.reads .secret octets fits with ⟨same, again, read⟩ | tolerated
        · obtain rfl := Option.some.inj (again.symm.trans decoded)
          rw [unread] at read
          cases read
        · exact .throw tolerated
  | none =>
      apply (keeps_loadDeviceId serves address).bind
      intro id _
      apply (keeps_write (serves.secret id)).bind
      intro _ _
      apply (keeps_commit Cell.credentials).bind
      intro _ _
      exact .pure trivial

theorem keeps_loadIdentity (serves : contract.Serves) (address : Address) :
    (loadIdentity address).Keeps contract fun _ => True := by
  apply (keeps_loadDeviceId serves address).bind
  intro id _
  apply (keeps_loadSecret serves address).bind
  intro secret _
  exact .pure trivial

theorem keeps_haveTokens : haveTokens.Keeps contract fun _ => True := by
  apply Program.Keeps.bind (keeps_read .accessToken)
  intro found _
  cases found with
  | error failure => trivial
  | ok value =>
      cases value with
      | none => trivial
      | some octets => trivial

theorem keeps_loadRecord (serves : contract.Serves) :
    loadRecord.Keeps contract fun _ => True := by
  apply (keeps_readAs (serves.reads .accessToken)).bind
  intro token _
  cases token with
  | none => exact .pure trivial
  | some token =>
      dsimp only
      split
      next => exact .pure trivial
      next =>
        apply (keeps_readAs (serves.reads .tokenExpiry)).bind
        intro expiry _
        cases expiry with
        | none => exact .pure trivial
        | some expiry =>
            apply (keeps_readAs (serves.reads .tokenDeviceId)).bind
            intro deviceId _
            apply (keeps_readAs (serves.reads .tokenChildId)).bind
            intro childId _
            exact .pure trivial

theorem keeps_isProvisioned : isProvisioned.Keeps contract fun _ => True := by
  apply (keeps_read .network).bind
  intro network _
  cases network with
  | none => exact .pure trivial
  | some octets =>
      apply (keeps_read .pairingCode).bind
      intro code _
      exact .pure trivial

theorem keeps_clearTokens : clearTokens.Keeps contract fun _ => True :=
  (keeps_clearAll tokenCells).bind fun _ _ => keeps_commit Cell.tokens

theorem keeps_clearNetwork : clearNetwork.Keeps contract fun _ => True :=
  (keeps_clear .network).bind fun _ _ => keeps_commit Cell.wifi

theorem keeps_factoryReset : factoryReset.Keeps contract fun _ => True := by
  apply (keeps_clearAll pairingCells).bind
  intro _ _
  apply (keeps_commit Cell.credentials).bind
  intro _ _
  apply keeps_clearTokens.bind
  intro _ _
  exact keeps_clearNetwork

namespace Operation

def Fits (contract : Contract) (operation : Operation) : Prop :=
  ∀ write ∈ operation.writes, ∀ value ∈ write.value, contract.Takes write.cell value

theorem Fits.write {operation : Operation} (fits : operation.Fits contract) {cell : Cell}
    {value : Octets} (member : ⟨cell, some value⟩ ∈ operation.writes) :
    contract.Takes cell value := fits _ member value rfl

theorem keeps_call (serves : contract.Serves) {operation : Operation}
    (fits : operation.Fits contract) : operation.call.Keeps contract fun _ => True := by
  have loads : ∀ {α : Type} {decode? : Octets → Option α} {cell : Cell},
      (∀ octets, contract.fits cell octets →
        (decode? octets).isSome = true ∨ contract.tolerates (.corrupt cell.location)) →
        (cell.readAs decode?).Keeps contract fun _ => True :=
    fun reads => (keeps_readAs reads).mono fun _ _ => trivial
  cases operation with
  | loadDeviceId address => exact keeps_loadDeviceId serves address
  | loadSecret address => exact keeps_loadSecret serves address
  | saveTokens access refresh =>
      apply (keeps_write (fits.write (.head _))).bind
      intro _ _
      exact keeps_save (fits.write (.tail _ (.head _))) Cell.tokens
  | haveTokens => exact Program.Keeps.bind keeps_haveTokens fun _ _ => trivial
  | loadAccessToken => exact loads (serves.reads .accessToken)
  | loadRefreshToken => exact loads (serves.reads .refreshToken)
  | clearTokens => exact keeps_clearTokens
  | saveRecord record =>
      apply (keeps_write (fits.write (.head _))).bind
      intro _ _
      apply (keeps_write (fits.write (.tail _ (.head _)))).bind
      intro _ _
      apply (keeps_write (fits.write (.tail _ (.tail _ (.head _))))).bind
      intro _ _
      exact keeps_save (fits.write (.tail _ (.tail _ (.tail _ (.head _))))) Cell.tokens
  | loadRecord => exact keeps_loadRecord serves
  | loadPairingCode => exact loads (serves.reads .pairingCode)
  | loadChildId => exact loads (serves.reads .childId)
  | loadChildAge => exact loads (serves.reads .childAge)
  | loadPayload => exact loads (serves.reads .payload)
  | loadDeviceConfig => exact loads (serves.reads .deviceConfig)
  | savePairingCode | saveChildId | saveChildAge | savePayload | saveDeviceConfig =>
      exact keeps_save (fits.write (.head _)) Cell.credentials
  | saveNetwork network => exact keeps_save (fits.write (.head _)) Cell.wifi
  | loadNetwork => exact loads (serves.reads .network)
  | clearNetwork => exact keeps_clearNetwork
  | saveDetails details =>
      apply (keeps_write (fits.write (.head _))).bind
      intro _ _
      apply (keeps_write (fits.write (.tail _ (.head _)))).bind
      intro _ _
      apply (keeps_write (fits.write (.tail _ (.tail _ (.head _))))).bind
      intro _ _
      apply (keeps_commit Cell.credentials).bind
      intro _ _
      exact keeps_save (fits.write (.tail _ (.tail _ (.tail _ (.head _))))) Cell.wifi
  | isProvisioned => exact keeps_isProvisioned
  | factoryReset => exact keeps_factoryReset

end Operation

end Credentials

end DeviceAuth
