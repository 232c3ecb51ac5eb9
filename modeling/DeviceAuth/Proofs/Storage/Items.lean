import DeviceAuth.Proofs.Storage.Attempts
import DeviceAuth.Proofs.Text.Base64

/-! The items of the store. Every item that can be loaded has a cell and a stored form of its
own, and is saved and cleared by certain operations. The last attempt that had an effect on
the item decides what is loaded. -/

namespace DeviceAuth

namespace Credentials

open Operation (attempts)

/-! ## Items -/

/-- An item of the store: where it is, how it is written and read, and what operations do
to it. -/
structure Item (α : Type) where
  cell : Cell
  encode : α → Octets
  decode? : Octets → Option α
  effect : Operation → Option (Option α)
  notIdentity : cell ∉ identityCells := by decide
  last?_writes : ∀ operation : Operation,
    Write.last? cell operation.writes = (effect operation).map (Option.map encode)
  decode?_encode : ∀ operation : Operation, operation.IsSound → ∀ value,
    effect operation = some (some value) → decode? (encode value) = some value

namespace Item

def text (cell : Cell) (notIdentity : cell ∉ identityCells)
    (effect : Operation → Option (Option String))
    (last?_writes : ∀ operation : Operation,
      Write.last? cell operation.writes = (effect operation).map (Option.map Octets.ofText)) :
    Item String where
  cell := cell
  encode := Octets.ofText
  decode? := Octets.toText?
  effect := effect
  notIdentity := notIdentity
  last?_writes := last?_writes
  decode?_encode _ _ value _ := Octets.toText?_ofText value

def pairingCode : Item String :=
  text .pairingCode (by decide)
    (fun
      | .savePairingCode code => some (some code)
      | .saveDetails details => some (some details.pairingCode)
      | .factoryReset => some none
      | _ => none)
    fun operation => by cases operation <;> rfl

def childId : Item String :=
  text .childId (by decide)
    (fun
      | .saveChildId id => some (some id)
      | .saveDetails details => some (some details.childId)
      | .factoryReset => some none
      | _ => none)
    fun operation => by cases operation <;> rfl

def accessToken : Item String :=
  text .accessToken (by decide)
    (fun
      | .saveTokens access _ => some (some access)
      | .saveRecord record => some (some record.token)
      | .clearTokens => some none
      | .factoryReset => some none
      | _ => none)
    fun operation => by cases operation <;> rfl

def refreshToken : Item String :=
  text .refreshToken (by decide)
    (fun
      | .saveTokens _ refresh => some (some refresh)
      | .clearTokens => some none
      | .factoryReset => some none
      | _ => none)
    fun operation => by cases operation <;> rfl

def childAge : Item Int32 where
  cell := .childAge
  encode := ageOctets
  decode? := age?
  effect
    | .saveChildAge age => some (some age)
    | .saveDetails details => some (some details.childAge)
    | .factoryReset => some none
    | _ => none
  last?_writes operation := by cases operation <;> rfl
  decode?_encode _ _ value _ := age?_ageOctets value

theorem payload?_payloadOctets {payload : Json.Value}
    (plain : payload.IsPlain Json.greatestDepth) :
    payload? (payloadOctets payload) = some payload := by
  rw [payload?, payloadOctets, Base64.decodeOctets?_ofText_encode, Option.bind_some,
    Json.Value.parse?_octets plain]

def payload : Item Json.Value where
  cell := .payload
  encode := payloadOctets
  decode? := payload?
  effect
    | .savePayload payload => some (some payload)
    | .factoryReset => some none
    | _ => none
  last?_writes operation := by cases operation <;> rfl
  decode?_encode operation sound value left := by
    cases operation with
    | savePayload payload =>
        cases left
        exact payload?_payloadOctets sound
    | _ => cases left

def deviceConfig : Item Json.Value where
  cell := .deviceConfig
  encode := Json.Value.octets
  decode? := Json.Value.parse?
  effect
    | .saveDeviceConfig config => some (some config)
    | .factoryReset => some none
    | _ => none
  last?_writes operation := by cases operation <;> rfl
  decode?_encode operation sound value left := by
    cases operation with
    | saveDeviceConfig config =>
        cases left
        exact Json.Value.parse?_octets sound
    | _ => cases left

theorem network?_octets {network : Network} (ok : network.check = .ok ()) :
    network? network.octets = some network := by
  rw [network?, Network.ofOctets?_octets ok]
  rfl

def network : Item Network where
  cell := .network
  encode := Network.octets
  decode? := network?
  effect
    | .saveNetwork network => some (some network)
    | .saveDetails details => some (some details.network)
    | .clearNetwork => some none
    | .factoryReset => some none
    | _ => none
  last?_writes operation := by cases operation <;> rfl
  decode?_encode operation sound value left := by
    cases operation with
    | saveNetwork network =>
        cases left
        exact network?_octets sound
    | saveDetails details =>
        cases left
        exact network?_octets (details.check_eq_ok_iff.mp sound).1
    | _ => cases left

/-! ## Items on a shelf -/

variable {α : Type} (item : Item α)

theorem look_step_of_succeeds {operation : Operation} {shelf : Shelf}
    (succeeded : operation.succeeds shelf = true) :
    (operation.step shelf).look item.cell.location =
      ((item.effect operation).map (Option.map item.encode)).getD
        (shelf.look item.cell.location) := by
  rw [Operation.look_step_of_succeeds succeeded item.notIdentity, item.last?_writes]

theorem look_step_of_fails {operation : Operation} (sound : operation.IsSound) {shelf : Shelf}
    (failed : operation.succeeds shelf = false)
    (apart : ∀ record, operation = .saveRecord record → item.cell ∉ recordCells) :
    (operation.step shelf).look item.cell.location = shelf.look item.cell.location := by
  cases change : operation.isChange with
  | false =>
      have unwritten := Operation.cells_of_not_isChange change
      exact Operation.look_step (fun member => item.notIdentity (unwritten member)) shelf
  | true =>
      rcases Operation.fails_cases sound change failed with ⟨octets, single⟩ | ⟨record, saves⟩
      · rw [Operation.step_of_single?_of_fails single failed]
      · have other : item.cell ∉ operation.cells := saves ▸ apart record saves
        exact Operation.look_step other shelf

theorem look_step (apart : item.cell ∉ recordCells)
    {operation : Operation} (sound : operation.IsSound) (shelf : Shelf) :
    (operation.step shelf).look item.cell.location =
      ((ifSucceeded item.effect ⟨operation, operation.succeeds shelf⟩).map
        (Option.map item.encode)).getD (shelf.look item.cell.location) := by
  cases outcome : operation.succeeds shelf with
  | true => exact item.look_step_of_succeeds outcome
  | false =>
      apply item.look_step_of_fails sound outcome
      exact fun _ _ => apart

/-- The operations change the item by these effects, and whatever they leave can be read. -/
structure Follows (effect : Attempt → Option (Option α)) (operations : List Operation) : Prop where
  step : ∀ operation ∈ operations, ∀ shelf : Shelf,
    (operation.step shelf).look item.cell.location =
      ((effect ⟨operation, operation.succeeds shelf⟩).map (Option.map item.encode)).getD
        (shelf.look item.cell.location)
  readable : ∀ attempt : Attempt, attempt.operation ∈ operations → ∀ value,
    effect attempt = some (some value) → item.decode? (item.encode value) = some value

theorem follows_ifSucceeded (apart : item.cell ∉ recordCells)
    {operations : List Operation} (sound : ∀ operation ∈ operations, operation.IsSound) :
    item.Follows (ifSucceeded item.effect) operations where
  step operation member := item.look_step apart (sound operation member)
  readable := by
    rintro ⟨operation, succeeded⟩ member value left
    cases succeeded with
    | true => exact item.decode?_encode operation (sound operation member) value left
    | false => cases left

variable {item} {effect : Attempt → Option (Option α)} {operations : List Operation}

theorem Follows.look_run (follows : item.Follows effect operations) {shelf : Shelf}
    (empty : shelf.look item.cell.location = none) :
    (Operation.run operations shelf).look item.cell.location =
      (latest effect (attempts operations shelf)).map item.encode := by
  rw [Operation.look_run follows.step, empty, latest]
  cases (attempts operations shelf).reverse.findSome? effect with
  | none => rfl
  | some left => rfl

theorem Follows.load_run {σ : Type} [Backend σ] [Reliable σ] {store : σ}
    (follows : item.Follows effect operations) (works : Reliable.Works store)
    (empty : ∀ location, (Reliable.shelf store).look location = none) :
    ((item.cell.readAs item.decode?).perform (Operation.run operations store)).1 =
      .ok (latest effect (attempts operations store)) := by
  have agrees := Operation.runAgrees operations works
  rw [(Reliable.perform_agrees _ agrees.works).result, agrees.shelf, agrees.attempts,
    Cell.perform_readAs, follows.look_run (empty _)]
  cases last : latest effect (attempts operations (Reliable.shelf store)) with
  | none => rfl
  | some value =>
      rcases exists_of_latest last with ⟨attempt, member, left⟩
      have decoded := follows.readable attempt (Operation.mem_of_mem_attempts member) value left
      simp only [Option.map_some, decoded]

end Item

end Credentials

end DeviceAuth
