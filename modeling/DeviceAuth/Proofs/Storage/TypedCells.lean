import DeviceAuth.Proofs.Storage.Items

/-! The store as independent cells. On a store that works, each loader gives back what the last
effect on its item has left, however the operations that share cells follow each other; a
single item is refused exactly if it is too large; and a record stays until tokens are
stored or cleared again. -/

namespace DeviceAuth

namespace Credentials

open Operation (attempts run)

/-! ## The access token -/

/-- The effect of an attempt on the access token. The token is the part of a record that is
written first, so a record that is refused for its ids has left its token behind. -/
def accessTokenEffect : Attempt → Option (Option String)
  | ⟨.saveRecord record, false⟩ =>
      if record.token.utf8ByteSize ≤ Backend.greatestValue then some (some record.token) else none
  | attempt => ifSucceeded Item.accessToken.effect attempt

theorem look_accessToken_step {operation : Operation} (sound : operation.IsSound)
    (shelf : Shelf) :
    (operation.step shelf).look Cell.accessToken.location =
      ((accessTokenEffect ⟨operation, operation.succeeds shelf⟩).map
        (Option.map Octets.ofText)).getD (shelf.look Cell.accessToken.location) := by
  cases outcome : operation.succeeds shelf with
  | true =>
      have same : accessTokenEffect ⟨operation, true⟩ = Item.accessToken.effect operation := by
        cases operation <;> rfl
      rw [same]
      exact Item.accessToken.look_step_of_succeeds outcome
  | false =>
      cases operation with
      | saveRecord record =>
          by_cases fits : record.token.utf8ByteSize ≤ Backend.greatestValue
          · have left : accessTokenEffect ⟨.saveRecord record, false⟩ =
                some (some record.token) := if_pos fits
            rw [left, Operation.step, Operation.action_saveRecord]
            exact look_accessToken_saveRecord (show Honest.CanWrite shelf from trivial) fits
          · have none_ : accessTokenEffect ⟨.saveRecord record, false⟩ = none := if_neg fits
            have unfit : ¬ Write.fits ⟨.accessToken, some (Octets.ofText record.token)⟩ = true :=
              fun fit => fits (of_decide_eq_true fit)
            rw [none_, Operation.step_of_isChange rfl, Operation.writes, Write.tryAll,
              if_neg unfit]
            rfl
      | _ =>
          apply Item.accessToken.look_step_of_fails sound outcome
          intro record saves
          cases saves

theorem follows_accessToken {operations : List Operation}
    (sound : ∀ operation ∈ operations, operation.IsSound) :
    Item.accessToken.Follows accessTokenEffect operations where
  step operation member := look_accessToken_step (sound operation member)
  readable _ _ value _ := Octets.toText?_ofText value

/-! ## Records -/

namespace Operation

def isTokenOperation : Operation → Bool
  | .saveTokens _ _ => true
  | .saveRecord _ => true
  | .clearTokens => true
  | .factoryReset => true
  | _ => false

theorem not_mem_cells_of_not_isTokenOperation {operation : Operation}
    (other : operation.isTokenOperation = false) :
    ∀ cell ∈ tokenCells, cell ∉ operation.cells := by
  cases operation with
  | saveTokens | saveRecord | clearTokens | factoryReset => cases other
  | _ => simp [tokenCells, cells, detailsCells]

end Operation

theorem Shows.step {record : TokenRecord} {shelf : Shelf} (shows_ : Shows record shelf)
    {operation : Operation} (other : operation.isTokenOperation = false) :
    Shows record (operation.step shelf) := by
  have kept : ∀ cell ∈ tokenCells,
      (operation.step shelf).look cell.location = shelf.look cell.location := fun cell member =>
    Operation.look_step
      (Operation.not_mem_cells_of_not_isTokenOperation other cell member) shelf
  constructor
  case token => exact (kept .accessToken (by decide)).trans shows_.token
  case expiry => exact (kept .tokenExpiry (by decide)).trans shows_.expiry
  case deviceId => exact (kept .tokenDeviceId (by decide)).trans shows_.deviceId
  case childId => exact (kept .tokenChildId (by decide)).trans shows_.childId

theorem Shows.run {record : TokenRecord} {shelf : Shelf} (shows_ : Shows record shelf)
    {operations : List Operation}
    (others : ∀ operation ∈ operations, operation.isTokenOperation = false) :
    Shows record (Operation.run operations shelf) := by
  induction operations generalizing shelf with
  | nil => exact shows_
  | cons operation rest induction =>
      exact induction (shows_.step (others operation (.head rest)))
        fun other member => others other (.tail operation member)

theorem fits_of_succeeds {record : TokenRecord} {shelf : Shelf}
    (saved : (Operation.saveRecord record).succeeds shelf = true) : record.Fits := by
  rw [Operation.succeeds_of_isChange rfl] at saved
  simp only [Operation.writes, List.all_cons, List.all_nil, Bool.and_true, Bool.and_eq_true]
    at saved
  rcases saved with ⟨token, _, deviceId, childId⟩
  exact ⟨of_decide_eq_true token, of_decide_eq_true deviceId, of_decide_eq_true childId⟩

theorem loadRecord_run {σ : Type} [Backend σ] [Reliable σ] {store : σ}
    (works : Reliable.Works store) {record : TokenRecord}
    (saved : (Operation.saveRecord record).succeeds store = true)
    (given : record.token.isEmpty = false) {rest : List Operation}
    (others : ∀ operation ∈ rest, operation.isTokenOperation = false) :
    (loadRecord.perform (run (.saveRecord record :: rest) store)).1 = .ok (some record) := by
  have agrees := Operation.runAgrees (.saveRecord record :: rest) works
  rw [Operation.succeeds_agrees _ works] at saved
  have shown : Shows record ((Operation.saveRecord record).step (Reliable.shelf store)) := by
    rw [Operation.step, Operation.action_saveRecord]
    exact shows_saveRecord (fits_of_succeeds saved) (Reliable.shelf store)
  rw [(Reliable.perform_agrees _ agrees.works).result, agrees.shelf]
  exact loadRecord_of_shows given (Shows.run shown others)

theorem greatestValue_lt_payloadOctets_iff (payload : Json.Value) :
    Backend.greatestValue < (payloadOctets payload).length ↔ 3000 < payload.octets.length := by
  have most : Backend.greatestValue = 4000 := rfl
  rw [payloadOctets, Base64.length_ofText_encode, most]
  omega

/-! ## The store as cells -/

variable {σ : Type} [Backend σ] [Reliable σ]

/-- What a store shows after a run of operations, if the access token is subject to these
effects: every item as the last effect on it has left it, a single item refused exactly if it
is too large, and a record as it was saved. -/
structure ActsAsCells (accessToken : Attempt → Option (Option String))
    (operations : List Operation) (store : σ) : Prop where
  pairingCode : (loadPairingCode.perform (run operations store)).1 =
    .ok (latest (ifSucceeded Item.pairingCode.effect) (attempts operations store))
  childId : (loadChildId.perform (run operations store)).1 =
    .ok (latest (ifSucceeded Item.childId.effect) (attempts operations store))
  childAge : (loadChildAge.perform (run operations store)).1 =
    .ok (latest (ifSucceeded Item.childAge.effect) (attempts operations store))
  payload : (loadPayload.perform (run operations store)).1 =
    .ok (latest (ifSucceeded Item.payload.effect) (attempts operations store))
  deviceConfig : (loadDeviceConfig.perform (run operations store)).1 =
    .ok (latest (ifSucceeded Item.deviceConfig.effect) (attempts operations store))
  network : (loadNetwork.perform (run operations store)).1 =
    .ok (latest (ifSucceeded Item.network.effect) (attempts operations store))
  refreshToken : (loadRefreshToken.perform (run operations store)).1 =
    .ok (latest (ifSucceeded Item.refreshToken.effect) (attempts operations store))
  accessToken : (loadAccessToken.perform (run operations store)).1 =
    .ok (latest accessToken (attempts operations store))
  refused : ∀ (operation : Operation) (octets : Octets), operation.single? = some octets →
    (operation.succeeds (run operations store) = false ↔ Backend.greatestValue < octets.length)
  refusedPayload : ∀ payload, (Operation.savePayload payload).succeeds (run operations store) =
    false ↔ 3000 < payload.octets.length
  unchanged : ∀ (operation : Operation) (octets : Octets), operation.single? = some octets →
    operation.succeeds (run operations store) = false →
      Reliable.shelf (operation.step (run operations store)) =
        Reliable.shelf (run operations store)
  record : ∀ front record rest, operations = front ++ .saveRecord record :: rest →
    (Operation.saveRecord record).succeeds (run front store) = true →
      record.token.isEmpty = false →
        (∀ operation ∈ rest, operation.isTokenOperation = false) →
          (loadRecord.perform (run operations store)).1 = .ok (some record)

/-- A store that works and was empty acts as cells, with the effects on the access token
that a refused record has too. -/
theorem actsAsCells_run (operations : List Operation) (store : σ)
    (sound : ∀ operation ∈ operations, operation.IsSound) (works : Reliable.Works store)
    (empty : ∀ location, (Reliable.shelf store).look location = none) :
    ActsAsCells accessTokenEffect operations store := by
  have agrees := Operation.runAgrees operations works
  have loads : ∀ {α : Type} (item : Item α),
      item.cell ∉ recordCells →
        ((item.cell.readAs item.decode?).perform (run operations store)).1 =
          .ok (latest (ifSucceeded item.effect) (attempts operations store)) :=
    fun item apart => (item.follows_ifSucceeded apart sound).load_run works empty
  have outcome : ∀ operation : Operation, operation.succeeds (run operations store) =
      operation.succeeds (run operations (Reliable.shelf store)) := by
    intro operation
    rw [operation.succeeds_agrees agrees.works, agrees.shelf]
  have refused : ∀ (operation : Operation) (octets : Octets), operation.single? = some octets →
      (operation.succeeds (run operations store) = false ↔
        Backend.greatestValue < octets.length) := by
    intro operation octets single
    rw [outcome]
    exact Operation.fails_iff_of_single? single _
  constructor
  case pairingCode => exact loads Item.pairingCode (by decide)
  case childId => exact loads Item.childId (by decide)
  case childAge => exact loads Item.childAge (by decide)
  case payload => exact loads Item.payload (by decide)
  case deviceConfig => exact loads Item.deviceConfig (by decide)
  case network => exact loads Item.network (by decide)
  case refreshToken => exact loads Item.refreshToken (by decide)
  case accessToken => exact (follows_accessToken sound).load_run works empty
  case refused => exact refused
  case refusedPayload =>
    intro payload
    exact (refused (.savePayload payload) _ rfl).trans
      (greatestValue_lt_payloadOctets_iff payload)
  case unchanged =>
    intro operation octets single failed
    rw [outcome] at failed
    rw [operation.shelf_step agrees.works, agrees.shelf,
      Operation.step_of_single?_of_fails single failed]
  case record =>
    rintro front record rest rfl saved given others
    have before := Operation.runAgrees front works
    rw [Operation.run_append]
    exact loadRecord_run before.works saved given others

def refusedRecord : TokenRecord := ⟨"b", 0, String.ofList (List.replicate 4001 'd'), ""⟩

def exampleOperations : List Operation :=
  [.saveTokens "a" "r", .saveRecord refusedRecord,
    .savePayload (.object [("age", .number (.whole 7))])]

theorem sound_exampleOperations : ∀ operation ∈ exampleOperations, operation.IsSound := by
  intro operation member
  simp only [exampleOperations, List.mem_cons, List.not_mem_nil, or_false] at member
  rcases member with rfl | rfl | rfl
  · exact ⟨by decide, by decide⟩
  · trivial
  · exact ⟨List.pairwise_singleton _ _, ⟨by decide, by decide⟩, trivial⟩

theorem actsAsCells_example : (∀ operation ∈ exampleOperations, operation.IsSound) ∧
    ActsAsCells accessTokenEffect exampleOperations ({} : Memory) :=
  ⟨sound_exampleOperations, actsAsCells_run exampleOperations ({} : Memory)
    sound_exampleOperations ⟨rfl, rfl⟩ fun _ => rfl⟩

theorem attempts_exampleOperations : attempts exampleOperations ({} : Memory) =
    [⟨.saveTokens "a" "r", true⟩, ⟨.saveRecord refusedRecord, false⟩,
      ⟨.savePayload (.object [("age", .number (.whole 7))]), true⟩] := by
  have works : Reliable.Works ({} : Memory) := ⟨rfl, rfl⟩
  have large : (Octets.ofText refusedRecord.deviceId).length = 4001 := by
    have ascii : ∀ character ∈ List.replicate 4001 'd', character.toNat < 128 := by
      intro character member
      rw [List.eq_of_mem_replicate member]
      decide
    rw [refusedRecord, Octets.ofText_ofList, Octets.ofCharacters_of_ascii ascii,
      List.length_map, List.length_replicate]
  have refused : (Operation.saveRecord refusedRecord).writes.all Write.fits = false := by
    have unfit : Write.fits ⟨.tokenDeviceId, some (Octets.ofText refusedRecord.deviceId)⟩ =
        false := by
      show decide ((Octets.ofText refusedRecord.deviceId).length ≤ Backend.greatestValue) = false
      rw [large]
      rfl
    simp [Operation.writes, unfit]
  have taken : (Operation.savePayload (.object [("age", .number (.whole 7))])).writes.all
      Write.fits = true := by decide +kernel
  rw [(Operation.runAgrees exampleOperations works).attempts, exampleOperations, attempts,
    attempts, attempts, attempts, Operation.succeeds_of_isChange rfl,
    Operation.succeeds_of_isChange rfl, Operation.succeeds_of_isChange rfl, refused, taken]
  rfl

/-- A store does not act as cells if only saves that succeed have an effect on the access
token. -/
theorem not_actsAsCells_ifSucceeded : (∀ operation ∈ exampleOperations, operation.IsSound) ∧
    ¬ ActsAsCells (ifSucceeded Item.accessToken.effect) exampleOperations ({} : Memory) := by
  refine ⟨sound_exampleOperations, fun acts => ?_⟩
  have left := (follows_accessToken sound_exampleOperations).load_run
    (show Reliable.Works ({} : Memory) from ⟨rfl, rfl⟩) fun _ => rfl
  have both := Except.ok.inj (left.symm.trans acts.accessToken)
  rw [attempts_exampleOperations] at both
  have tokens : some "b" = some "a" := both
  exact absurd tokens (by decide)

end Credentials

end DeviceAuth
