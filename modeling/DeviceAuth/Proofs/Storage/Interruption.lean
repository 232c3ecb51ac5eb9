import DeviceAuth.Proofs.Identity
import DeviceAuth.Proofs.Storage.Contracts
import DeviceAuth.Proofs.Storage.Items
import DeviceAuth.Proofs.Storage.Monitor

/-! Operations that fail or are cut off. Each value is written on its own, and every value that
is written to a cell can be read by the loader of that cell, whatever the other cells hold. So
a group that was only written in part is read as an item that is not there, and nothing is
ever found corrupt. -/

namespace DeviceAuth

/-! ## Stores that read what was written -/

/-- A store that calls nothing corrupt but a value that is too large to have been stored. -/
class Candid (σ : Type) [Backend σ] [Honest σ] : Prop where
  get : ∀ location (store : σ) blamed, (Backend.get location store).1 = .error (.corrupt blamed) →
    ∃ octets, (Honest.shelf store).look location = some octets ∧
      Backend.greatestValue < octets.length
  set : ∀ location value (store : σ) blamed,
    (Backend.set location value store).1 ≠ .error (.corrupt blamed)
  remove : ∀ location (store : σ) blamed,
    (Backend.remove location store).1 ≠ .error (.corrupt blamed)
  commit : ∀ space (store : σ) blamed,
    (Backend.commit space store).1 ≠ .error (.corrupt blamed)

instance : Candid Memory where
  get location memory blamed failed := by
    simp only [Backend.get] at failed
    split at failed
    next => cases failed
    next => cases failed
  set location value memory blamed := by
    simp only [Backend.set]
    split
    next => exact nofun
    next =>
      split
      next => exact nofun
      next => exact nofun
  remove location memory blamed := by
    simp only [Backend.remove]
    split
    next => exact nofun
    next => exact nofun
  commit space memory blamed := by
    simp only [Backend.commit]
    split
    next => exact nofun
    next => exact nofun

namespace Monitored

theorem Relays.corrupt {α σ : Type} {toFailure : Monitored σ → Nat} {failure : StoreFailure}
    {before : Monitored σ} {real : Except StoreFailure α × Monitored σ}
    {inner : Except StoreFailure α × σ} (relays : Relays toFailure failure before real inner)
    {blamed : Location} (scheduled : failure ≠ .corrupt blamed)
    (failed : real.1 = .error (.corrupt blamed)) : inner.1 = .error (.corrupt blamed) := by
  have result := relays.result
  rw [failed] at result
  split at result
  next => exact absurd (Except.error.inj result).symm scheduled
  next => exact result.symm

instance {σ : Type} [Backend σ] [Honest σ] [Candid σ] : Candid (Monitored σ) where
  get location store blamed failed :=
    Candid.get location store.store blamed ((relays_get store location).corrupt nofun failed)
  set location value store blamed failed :=
    Candid.set location value store.store blamed
      ((relays_set store location value).corrupt nofun failed)
  remove location store blamed failed :=
    Candid.remove location store.store blamed
      ((relays_remove store location).corrupt nofun failed)
  commit space store blamed failed :=
    Candid.commit space store.store blamed ((relays_commit store space).corrupt nofun failed)

end Monitored

/-! ## What can be read -/

namespace Contract

def readable : Contract where
  fits cell octets := cell.Reads octets ∧ octets.length ≤ Backend.greatestValue
  tolerates failure := ∀ location, failure ≠ .corrupt location

theorem takes_readable {cell : Cell} {octets : Octets} (reads : cell.Reads octets) :
    readable.Takes cell octets :=
  fun accepted => ⟨reads, ((Backend.refusal?_eq_none_iff _ _).mp accepted).2.2⟩

theorem serves_readable : readable.Serves where
  reads _ _ fits := .inl fits.1
  deviceId address :=
    takes_readable ⟨address.deviceId, Octets.toText?_ofText _, address.isValid_deviceId⟩
  secret id := by
    apply takes_readable
    refine ⟨(Secret.derive id).hex, Octets.toText?_ofText _, ?_⟩
    rw [Secret.ofHex?_hex]
    rfl

theorem bounds_readable {σ : Type} [Backend σ] [Honest σ] [Candid σ] : readable.Bounds σ where
  get cell store held := by
    cases answer : (Backend.get cell.location store).1 with
    | ok found => trivial
    | error failure =>
        rintro blamed rfl
        obtain ⟨octets, stored, large⟩ := Candid.get cell.location store blamed answer
        exact Nat.not_le_of_lt large (held cell octets stored).2
  set location value store := by
    cases answer : (Backend.set location value store).1 with
    | ok => trivial
    | error failure =>
        rintro blamed rfl
        exact Candid.set location value store blamed answer
  remove location store := by
    cases answer : (Backend.remove location store).1 with
    | ok => trivial
    | error failure =>
        rintro blamed rfl
        exact Candid.remove location store blamed answer
  commit space store := by
    cases answer : (Backend.commit space store).1 with
    | ok => trivial
    | error failure =>
        rintro blamed rfl
        exact Candid.commit space store blamed answer

end Contract

namespace Credentials

namespace Operation

def IsValid : Operation → Prop
  | .savePayload payload => payload.IsWritable Json.greatestDepth
  | .saveDeviceConfig config => config.IsWritable Json.greatestDepth
  | .saveNetwork network => network.check = .ok ()
  | .saveDetails details => details.check = .ok ()
  | _ => True

theorem reads_writes {operation : Operation} (valid : operation.IsValid) :
    ∀ write ∈ operation.writes, ∀ value ∈ write.value, write.cell.Reads value := by
  have text (text : String) : (Octets.toText? (Octets.ofText text)).isSome = true := by
    rw [Octets.toText?_ofText]
    rfl
  have word (word : UInt32) : (Octets.toWord? (Octets.ofWord word)).isSome = true := by
    rw [Octets.toWord?_ofWord]
    rfl
  have age (age : Int32) : (age? (ageOctets age)).isSome = true := by
    rw [age?_ageOctets]
    rfl
  have network {network : Network} (ok : network.check = .ok ()) :
      (network? network.octets).isSome = true := by
    rw [Item.network?_octets ok]
    rfl
  have json {value : Json.Value} (writable : value.IsWritable Json.greatestDepth) :
      (Json.Value.parse? value.octets).isSome = true := by
    rw [Json.Value.parse?_octets_of_isWritable writable]
    rfl
  have cleared (cells : List Cell) : ∀ write ∈ cells.map fun cell => Write.mk cell none,
      ∀ value ∈ write.value, write.cell.Reads value := by
    intro write member value given
    obtain ⟨cell, _, rfl⟩ := List.mem_map.mp member
    cases given
  cases operation with
  | saveTokens access refresh =>
      simp only [writes, List.forall_mem_cons, Option.mem_some_iff, forall_eq']
      exact ⟨text access, text refresh, List.forall_mem_nil _⟩
  | saveRecord record =>
      simp only [writes, List.forall_mem_cons, Option.mem_some_iff, forall_eq']
      exact ⟨text record.token, word record.expiry, text record.deviceId, text record.childId,
        List.forall_mem_nil _⟩
  | savePairingCode code =>
      simp only [writes, List.forall_mem_singleton, Option.mem_some_iff, forall_eq']
      exact text code
  | saveChildId id =>
      simp only [writes, List.forall_mem_singleton, Option.mem_some_iff, forall_eq']
      exact text id
  | saveChildAge years =>
      simp only [writes, List.forall_mem_singleton, Option.mem_some_iff, forall_eq']
      exact age years
  | savePayload payload =>
      simp only [writes, List.forall_mem_singleton, Option.mem_some_iff, forall_eq', Cell.Reads,
        payload?, payloadOctets, Base64.decodeOctets?_ofText_encode, Option.bind_some]
      exact json valid
  | saveDeviceConfig config =>
      simp only [writes, List.forall_mem_singleton, Option.mem_some_iff, forall_eq']
      exact json valid
  | saveNetwork given =>
      simp only [writes, List.forall_mem_singleton, Option.mem_some_iff, forall_eq']
      exact network valid
  | saveDetails details =>
      simp only [writes, List.forall_mem_cons, Option.mem_some_iff, forall_eq']
      exact ⟨text details.childId, text details.pairingCode, age details.childAge,
        network (details.check_eq_ok_iff.mp valid).1, List.forall_mem_nil _⟩
  | clearTokens => exact cleared tokenCells
  | clearNetwork => exact cleared [.network]
  | factoryReset => exact cleared _
  | _ => exact List.forall_mem_nil _

theorem fits_readable {operation : Operation} (valid : operation.IsValid) :
    operation.Fits .readable :=
  fun write member value given =>
    Contract.takes_readable (reads_writes valid write member value given)

end Operation

namespace Trial

variable {σ : Type} [Backend σ] [Honest σ] {contract : Contract} {store : σ}

theorem held_step (serves : contract.Serves) (bounds : contract.Bounds σ) {trial : Trial}
    (fits : trial.operation.Fits contract) (held : contract.Held (Honest.shelf store)) :
    contract.Held (Honest.shelf (trial.step store)) := by
  have keeps := (Operation.keeps_call serves fits).dropResult
  rw [step]
  split
  next => exact (Honest.keeps_run bounds keeps held).2
  next calls _ => exact (Honest.keeps_run bounds (Program.Keeps.cut keeps calls) held).2

theorem held_run (serves : contract.Serves) (bounds : contract.Bounds σ) {trials : List Trial}
    (fits : ∀ trial ∈ trials, trial.operation.Fits contract)
    (held : contract.Held (Honest.shelf store)) :
    contract.Held (Honest.shelf (run trials store)) := by
  induction trials generalizing store with
  | nil => exact held
  | cons trial rest induction =>
      exact induction (fun other member => fits other (.tail _ member))
        (held_step serves bounds (fits trial (.head _)) held)

end Trial

/-! ## Nothing is corrupt -/

variable {σ : Type} [Backend σ]

/-- No operation on a store finds anything corrupt. -/
structure IsReadable (store : σ) : Prop where
  operation : ∀ operation : Operation, operation.IsValid → ∀ location,
    (operation.call.perform store).1 ≠ .error (.corrupt location)
  identity : ∀ address location,
    ((loadIdentity address).perform store).1 ≠ .error (.corrupt location)

variable [Honest σ] [Candid σ]

theorem isReadable_of_held {store : σ} (held : Contract.readable.Held (Honest.shelf store)) :
    IsReadable store := by
  have kept : ∀ {α : Type} {good : α → Prop} {action : Action α},
      action.Keeps .readable good → ∀ location,
        (action.perform store).1 ≠ .error (.corrupt location) := by
    intro α good action keeps location failed
    have answers := (Honest.keeps_run Contract.bounds_readable keeps held).1
    rw [Action.perform] at failed
    rw [failed] at answers
    exact answers location rfl
  constructor
  case operation =>
    exact fun operation valid =>
      kept (Operation.keeps_call Contract.serves_readable (Operation.fits_readable valid))
  case identity => exact fun address => kept (keeps_loadIdentity Contract.serves_readable address)

/-- However often operations failed or were cut off, nothing is found corrupt. -/
theorem isReadable_run {trials : List Trial}
    (valid : ∀ trial ∈ trials, trial.operation.IsValid) {store : σ}
    (empty : ∀ location, (Honest.shelf store).look location = none) :
    IsReadable (Trial.run trials store) :=
  isReadable_of_held (Trial.held_run Contract.serves_readable Contract.bounds_readable
    (fun trial member => Operation.fits_readable (valid trial member))
    (Contract.held_of_empty empty))

def interruptedTrials : List Trial :=
  [⟨.saveRecord ⟨"t", 7, "d", "c"⟩, some 1⟩,
    ⟨.savePayload (.object [("ratio", .number (.real ⟨false, ⟨2 ^ 52, -53⟩⟩))]), none⟩,
    ⟨.saveDetails ⟨⟨"home", "password"⟩, "0e1f2a3b-4c5d-6e7f-8091-a2b3c4d5e6f7", "ABC-123", 7⟩,
      none⟩,
    ⟨.factoryReset, some 2⟩]

def failingMemory : Monitored Memory := { store := {}, writesToFailure := 8 }

theorem isReadable_interrupted :
    (∀ trial ∈ interruptedTrials, trial.operation.IsValid) ∧
      (∀ location, (Honest.shelf failingMemory).look location = none) ∧
        IsReadable (Trial.run interruptedTrials failingMemory) := by
  have valid : ∀ trial ∈ interruptedTrials, trial.operation.IsValid := by
    have finite : (⟨2 ^ 52, -53⟩ : Magnitude).IsFinite := by decide
    have checked : Details.check ⟨⟨"home", "password"⟩, "0e1f2a3b-4c5d-6e7f-8091-a2b3c4d5e6f7",
        "ABC-123", 7⟩ = .ok () := by decide
    simp only [interruptedTrials, List.forall_mem_cons]
    exact ⟨trivial, ⟨finite, trivial⟩, checked, trivial, nofun⟩
  have empty : ∀ location, (Honest.shelf failingMemory).look location = none := fun _ => rfl
  exact ⟨valid, empty, isReadable_run valid empty⟩

-- A token without its expiry does not count.
example : ((Trial.mk (.saveRecord ⟨"t", 7, "d", "c"⟩) (some 1)).step ({} : Memory) |>
    loadRecord.perform).1.toOption = some none := by decide +kernel

end Credentials

end DeviceAuth
