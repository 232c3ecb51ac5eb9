import DeviceAuth.Storage.Credentials

/-! The operations of the credential store as data, so that runs of them can be given.
Whoever uses a store performs its operations one after the other; an operation that
fails has stopped at the first of its calls that failed. -/

namespace DeviceAuth

def Action.dropResult {α : Type} (action : Action α) : Action Unit := do
  let _ ← action
  pure ()

theorem Action.dropResult_unit (action : Action Unit) : action.dropResult = action :=
  bind_pure action

namespace Credentials

/-- An operation of the store. Those that may derive the identity are told the address
of the radio. -/
inductive Operation where
  | loadDeviceId (address : Address)
  | loadSecret (address : Address)
  | saveTokens (access refresh : String)
  | haveTokens
  | loadAccessToken
  | loadRefreshToken
  | clearTokens
  | saveRecord (record : TokenRecord)
  | loadRecord
  | savePairingCode (code : String)
  | loadPairingCode
  | saveChildId (id : String)
  | loadChildId
  | saveChildAge (age : Int32)
  | loadChildAge
  | savePayload (payload : Json.Value)
  | loadPayload
  | saveDeviceConfig (config : Json.Value)
  | loadDeviceConfig
  | saveNetwork (network : Network)
  | loadNetwork
  | clearNetwork
  | saveDetails (details : Details)
  | isProvisioned
  | factoryReset

namespace Operation

def Answer : Operation → Type
  | .loadDeviceId _ => String
  | .loadSecret _ => Secret
  | .haveTokens => Bool
  | .loadAccessToken => Option String
  | .loadRefreshToken => Option String
  | .loadRecord => Option TokenRecord
  | .loadPairingCode => Option String
  | .loadChildId => Option String
  | .loadChildAge => Option Int32
  | .loadPayload => Option Json.Value
  | .loadDeviceConfig => Option Json.Value
  | .loadNetwork => Option Network
  | .isProvisioned => Bool
  | _ => Unit

def call : (operation : Operation) → Action operation.Answer
  | .loadDeviceId address => Credentials.loadDeviceId address
  | .loadSecret address => Credentials.loadSecret address
  | .saveTokens access refresh => Credentials.saveTokens access refresh
  | .haveTokens => ExceptT.lift Credentials.haveTokens
  | .loadAccessToken => Credentials.loadAccessToken
  | .loadRefreshToken => Credentials.loadRefreshToken
  | .clearTokens => Credentials.clearTokens
  | .saveRecord record => Credentials.saveRecord record
  | .loadRecord => Credentials.loadRecord
  | .savePairingCode code => Credentials.savePairingCode code
  | .loadPairingCode => Credentials.loadPairingCode
  | .saveChildId id => Credentials.saveChildId id
  | .loadChildId => Credentials.loadChildId
  | .saveChildAge age => Credentials.saveChildAge age
  | .loadChildAge => Credentials.loadChildAge
  | .savePayload payload => Credentials.savePayload payload
  | .loadPayload => Credentials.loadPayload
  | .saveDeviceConfig config => Credentials.saveDeviceConfig config
  | .loadDeviceConfig => Credentials.loadDeviceConfig
  | .saveNetwork network => Credentials.saveNetwork network
  | .loadNetwork => Credentials.loadNetwork
  | .clearNetwork => Credentials.clearNetwork
  | .saveDetails details => Credentials.saveDetails details
  | .isProvisioned => Credentials.isProvisioned
  | .factoryReset => Credentials.factoryReset

def action (operation : Operation) : Action Unit := operation.call.dropResult

theorem action_saveRecord (record : TokenRecord) :
    (saveRecord record).action = Credentials.saveRecord record := Action.dropResult_unit _

theorem action_saveDetails (details : Details) :
    (saveDetails details).action = Credentials.saveDetails details := Action.dropResult_unit _

theorem action_factoryReset : factoryReset.action = Credentials.factoryReset :=
  Action.dropResult_unit _

variable {σ : Type} [Backend σ]

def step (operation : Operation) (store : σ) : σ := (operation.action.perform store).2

def succeeds (operation : Operation) (store : σ) : Bool := (operation.action.perform store).1.isOk

def run : List Operation → σ → σ
  | [], store => store
  | operation :: rest, store => run rest (operation.step store)

theorem run_append (first second : List Operation) (store : σ) :
    run (first ++ second) store = run second (run first store) := by
  induction first generalizing store with
  | nil => rfl
  | cons operation rest induction => exact induction (operation.step store)

end Operation

end Credentials

end DeviceAuth
