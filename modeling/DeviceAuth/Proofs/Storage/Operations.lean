import DeviceAuth.Proofs.Storage.Details
import DeviceAuth.Proofs.Storage.Grants
import DeviceAuth.Storage.Operation

/-! Which cells an operation writes. Operations of the credential store overlap, since
several of them store or clear values that belong together; but each has a fixed set of
cells, and every other cell stays as it is, whatever calls of the operation fail. -/

namespace DeviceAuth

/-! ## Actions that write certain cells only -/

namespace Action

variable {α β : Type} {cells left right : List Cell}

def WritesOnly (cells : List Cell) (action : Action α) : Prop :=
  ∀ cell, cell ∉ cells → LeavesAlone cell.location action

theorem WritesOnly.pure (value : α) : WritesOnly [] (Pure.pure value : Action α) :=
  fun _ _ => trivial

theorem WritesOnly.throw (failure : StoreFailure) :
    WritesOnly [] (MonadExcept.throw failure : Action α) :=
  fun _ _ => trivial

theorem WritesOnly.mono {action : Action α} (writes : WritesOnly left action)
    (sub : left ⊆ right) : WritesOnly right action :=
  fun cell other => writes cell fun member => other (sub member)

theorem WritesOnly.bind {action : Action α} {continuation : α → Action β}
    (first : WritesOnly left action)
    (second : ∀ result, WritesOnly right (continuation result)) :
    WritesOnly (left ++ right) (action >>= continuation) := by
  intro cell other
  apply LeavesAlone.bind
  · exact first cell fun member => other (List.mem_append_left right member)
  · intro result
    exact second result cell fun member => other (List.mem_append_right left member)

theorem WritesOnly.read_bind {action : Action α} {continuation : α → Action β}
    (first : WritesOnly [] action) (second : ∀ result, WritesOnly cells (continuation result)) :
    WritesOnly cells (action >>= continuation) :=
  first.bind second

theorem WritesOnly.dropResult {action : Action α} (writes : WritesOnly cells action) :
    WritesOnly cells action.dropResult := by
  have dropped : WritesOnly (cells ++ []) action.dropResult := writes.bind fun _ => .pure ()
  rw [List.append_nil] at dropped
  exact dropped

theorem writesOnly_commit (space : String) : WritesOnly [] (commit space) :=
  fun cell _ => leavesAlone_commit cell.location space

end Action

namespace Cell

open DeviceAuth.Action (LeavesAlone WritesOnly)

theorem writesOnly_read (cell : Cell) : WritesOnly [] cell.read := fun _ _ _ => trivial

theorem writesOnly_write (cell : Cell) (value : Octets) : WritesOnly [cell] (cell.write value) :=
  fun _ other => leavesAlone_write (List.ne_of_not_mem_cons other) value

theorem writesOnly_writeText (cell : Cell) (text : String) :
    WritesOnly [cell] (cell.writeText text) := writesOnly_write cell _

theorem writesOnly_clear (cell : Cell) : WritesOnly [cell] cell.clear :=
  fun _ other =>
    ⟨fun same => List.ne_of_not_mem_cons other (location_injective same), fun _ => trivial⟩

theorem writesOnly_clearAll (cells : List Cell) : WritesOnly cells (clearAll cells) := by
  induction cells with
  | nil => exact .pure ()
  | cons cell rest induction => exact (writesOnly_clear cell).bind fun _ => induction

theorem leavesAlone_readAs {α : Type} (location : Location) (decode? : Octets → Option α)
    (cell : Cell) : LeavesAlone location (cell.readAs decode?) := by
  have read : LeavesAlone location cell.read := fun _ => trivial
  apply read.bind
  intro found
  cases found with
  | none => trivial
  | some octets =>
      dsimp only
      split
      next => trivial
      next => trivial

theorem writesOnly_readAs {α : Type} (decode? : Octets → Option α) (cell : Cell) :
    WritesOnly [] (cell.readAs decode?) :=
  fun other _ => leavesAlone_readAs other.location decode? cell

theorem writesOnly_save (cell : Cell) (value : Octets) (space : String) :
    WritesOnly [cell] (do
      cell.write value
      Action.commit space) :=
  (writesOnly_write cell value).bind fun _ => Action.writesOnly_commit space

end Cell

/-! ## Operations -/

namespace Credentials

open DeviceAuth.Action (LeavesAlone WritesOnly leavesAlone_commit writesOnly_commit)
open Cell (leavesAlone_readAs writesOnly_read writesOnly_readAs writesOnly_write writesOnly_writeText
  writesOnly_clearAll writesOnly_save)

theorem writesOnly_loadDeviceId (address : Address) :
    WritesOnly [.deviceId] (loadDeviceId address) := by
  apply (writesOnly_readAs _ .deviceId).read_bind
  intro stored
  cases stored with
  | some id =>
      dsimp only
      split
      next => exact (WritesOnly.pure id).mono (List.nil_subset _)
      next => exact (WritesOnly.throw _).mono (List.nil_subset _)
  | none =>
      apply (writesOnly_writeText .deviceId _).bind
      intro _
      apply (writesOnly_commit Cell.credentials).read_bind
      intro _
      exact .pure _

theorem writesOnly_loadSecret (address : Address) :
    WritesOnly [.deviceId, .secret] (loadSecret address) := by
  apply (writesOnly_readAs _ .secret).read_bind
  intro stored
  cases stored with
  | some text =>
      dsimp only
      split
      next secret _ => exact (WritesOnly.pure secret).mono (List.nil_subset _)
      next => exact (WritesOnly.throw _).mono (List.nil_subset _)
  | none =>
      apply (writesOnly_loadDeviceId address).bind
      intro id
      apply (writesOnly_writeText .secret _).bind
      intro _
      apply (writesOnly_commit Cell.credentials).read_bind
      intro _
      exact .pure _

theorem leavesAlone_saveTokens {location : Location}
    (notAccess : location ≠ Cell.accessToken.location)
    (notRefresh : location ≠ Cell.refreshToken.location) (access refresh : String) :
    LeavesAlone location (saveTokens access refresh) := by
  have first : LeavesAlone location (Cell.accessToken.writeText access) :=
    ⟨notAccess, fun _ => trivial⟩
  have second : LeavesAlone location (Cell.refreshToken.writeText refresh) :=
    ⟨notRefresh, fun _ => trivial⟩
  apply first.bind
  intro _
  apply second.bind
  intro _
  exact leavesAlone_commit location Cell.tokens

theorem writesOnly_saveTokens (access refresh : String) :
    WritesOnly [.accessToken, .refreshToken] (saveTokens access refresh) := by
  intro cell other
  simp only [List.mem_cons, List.not_mem_nil, or_false, not_or] at other
  exact leavesAlone_saveTokens (fun same => other.1 (Cell.location_injective same))
    (fun same => other.2 (Cell.location_injective same)) access refresh

theorem writesOnly_haveTokens : WritesOnly [] (ExceptT.lift haveTokens) := by
  intro cell other
  apply Program.LeavesAlone.bind
  · apply Program.LeavesAlone.bind (writesOnly_read .accessToken cell other)
    intro found
    cases found with
    | error failure => trivial
    | ok value =>
        cases value with
        | none => trivial
        | some octets => trivial
  · intro result
    trivial

theorem writesOnly_clearTokens : WritesOnly tokenCells clearTokens :=
  (writesOnly_clearAll tokenCells).bind fun _ => writesOnly_commit Cell.tokens

def recordCells : List Cell := [.accessToken, .tokenExpiry, .tokenDeviceId, .tokenChildId]

theorem writesOnly_saveRecord (record : TokenRecord) :
    WritesOnly recordCells (saveRecord record) := by
  apply (writesOnly_writeText .accessToken _).bind
  intro _
  apply (writesOnly_write .tokenExpiry _).bind
  intro _
  apply (writesOnly_writeText .tokenDeviceId _).bind
  intro _
  exact writesOnly_save .tokenChildId _ Cell.tokens

theorem leavesAlone_loadRecord (location : Location) : LeavesAlone location loadRecord := by
  apply (leavesAlone_readAs location _ .accessToken).bind
  intro token
  cases token with
  | none => trivial
  | some token =>
      dsimp only
      split
      next => trivial
      next =>
        apply (leavesAlone_readAs location _ .tokenExpiry).bind
        intro expiry
        cases expiry with
        | none => trivial
        | some expiry =>
            apply (leavesAlone_readAs location _ .tokenDeviceId).bind
            intro deviceId
            apply (leavesAlone_readAs location _ .tokenChildId).bind
            intro childId
            trivial

theorem writesOnly_loadRecord : WritesOnly [] loadRecord :=
  fun cell _ => leavesAlone_loadRecord cell.location

theorem writesOnly_clearNetwork : WritesOnly [.network] clearNetwork :=
  (Cell.writesOnly_clear .network).bind fun _ => writesOnly_commit Cell.wifi

theorem writesOnly_saveDetails (details : Details) :
    WritesOnly detailsCells (saveDetails details) := by
  apply (writesOnly_writeText .childId _).bind
  intro _
  apply (writesOnly_writeText .pairingCode _).bind
  intro _
  apply (writesOnly_write .childAge _).bind
  intro _
  apply (writesOnly_commit Cell.credentials).read_bind
  intro _
  exact writesOnly_save .network _ Cell.wifi

theorem writesOnly_isProvisioned : WritesOnly [] isProvisioned := by
  apply (writesOnly_read .network).read_bind
  intro network
  cases network with
  | none => exact .pure false
  | some octets =>
      apply (writesOnly_read .pairingCode).read_bind
      intro code
      exact .pure code.isSome

theorem writesOnly_factoryReset :
    WritesOnly (pairingCells ++ (tokenCells ++ [.network])) factoryReset := by
  apply (writesOnly_clearAll pairingCells).bind
  intro _
  apply (writesOnly_commit Cell.credentials).read_bind
  intro _
  apply writesOnly_clearTokens.bind
  intro _
  exact writesOnly_clearNetwork

def identityCells : List Cell := [.deviceId, .secret]

namespace Operation

def cells : Operation → List Cell
  | .loadDeviceId _ => [.deviceId]
  | .loadSecret _ => [.deviceId, .secret]
  | .saveTokens _ _ => [.accessToken, .refreshToken]
  | .clearTokens => tokenCells
  | .saveRecord _ => recordCells
  | .savePairingCode _ => [.pairingCode]
  | .saveChildId _ => [.childId]
  | .saveChildAge _ => [.childAge]
  | .savePayload _ => [.payload]
  | .saveDeviceConfig _ => [.deviceConfig]
  | .saveNetwork _ => [.network]
  | .clearNetwork => [.network]
  | .saveDetails _ => detailsCells
  | .factoryReset => pairingCells ++ (tokenCells ++ [.network])
  | _ => []

theorem writesOnly_action (operation : Operation) :
    WritesOnly operation.cells operation.action := by
  apply WritesOnly.dropResult
  cases operation with
  | loadDeviceId address => exact writesOnly_loadDeviceId address
  | loadSecret address => exact writesOnly_loadSecret address
  | saveTokens access refresh => exact writesOnly_saveTokens access refresh
  | haveTokens => exact writesOnly_haveTokens
  | clearTokens => exact writesOnly_clearTokens
  | saveRecord record => exact writesOnly_saveRecord record
  | loadRecord => exact writesOnly_loadRecord
  | savePairingCode code => exact writesOnly_save .pairingCode _ Cell.credentials
  | saveChildId id => exact writesOnly_save .childId _ Cell.credentials
  | saveChildAge age => exact writesOnly_save .childAge _ Cell.credentials
  | savePayload payload => exact writesOnly_save .payload _ Cell.credentials
  | saveDeviceConfig config => exact writesOnly_save .deviceConfig _ Cell.credentials
  | saveNetwork network => exact writesOnly_save .network _ Cell.wifi
  | clearNetwork => exact writesOnly_clearNetwork
  | saveDetails details => exact writesOnly_saveDetails details
  | isProvisioned => exact writesOnly_isProvisioned
  | factoryReset => exact writesOnly_factoryReset
  | loadAccessToken | loadRefreshToken | loadPairingCode | loadChildId | loadChildAge |
    loadPayload | loadDeviceConfig | loadNetwork => exact writesOnly_readAs _ _

variable {σ : Type} [Backend σ] [Honest σ]

theorem look_step {operation : Operation} {cell : Cell} (other : cell ∉ operation.cells)
    (store : σ) :
    (Honest.shelf (operation.step store)).look cell.location =
      (Honest.shelf store).look cell.location :=
  Honest.look_run (operation.writesOnly_action cell other) store

end Operation

end Credentials

end DeviceAuth
