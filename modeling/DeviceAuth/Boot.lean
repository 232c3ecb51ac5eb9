import DeviceAuth.Device.Claim
import DeviceAuth.Environment
import DeviceAuth.Storage.Directory

/-! Starting a device on a computer without a radio. The device opens the store in the
home directory, makes sure of its identity, and, if it was provisioned, begins to
keep its token and claims its place if it has no valid one. Then it waits to be
stopped. What it does is logged. The outcomes of its requests are given from outside;
timers of the keeper do not go off, since the device is stopped as soon as it waits. -/

namespace DeviceAuth

namespace Boot

/-! ## The log -/

inductive Level where
  | error
  | warn
  | info
deriving DecidableEq, Repr

namespace Level

def name : Level → String
  | .error => "ERROR"
  | .warn => "WARN"
  | .info => "INFO"

def rank : Level → Nat
  | .error => 1
  | .warn => 2
  | .info => 3

end Level

structure Record where
  level : Level
  message : String
deriving DecidableEq, Repr

def logVariable : String := "RUST_LOG"

/-- The rank of the records that are logged at most. Without a selection it is that of
information, and with an empty one that of errors. -/
def greatestRank (environment : Environment) : Nat :=
  match (environment.value? logVariable).map String.toLower with
  | none => Level.info.rank
  | some "" => Level.error.rank
  | some "error" => Level.error.rank
  | some "warn" => Level.warn.rank
  | some "info" => Level.info.rank
  | some "debug" => Level.info.rank
  | some "trace" => Level.info.rank
  | some _ => 0

def shown (environment : Environment) (records : List Record) : List Record :=
  records.filter fun record => record.level.rank ≤ greatestRank environment

def eventText : AuthEvent → String
  | .authenticated expiry =>
      "Authenticated \x7b expiry: " ++ Decimal.text expiry.toNat ++ " \x7d"
  | .tokenStored expiry => "TokenStored \x7b expiry: " ++ Decimal.text expiry.toNat ++ " \x7d"
  | .refreshed expiry => "Refreshed \x7b expiry: " ++ Decimal.text expiry.toNat ++ " \x7d"
  | .refreshFailed attempt reason =>
      "RefreshFailed \x7b attempt: " ++ Decimal.text attempt ++ ", reason: " ++
        Text.Quoted.encode reason ++ " \x7d"
  | .refreshExhausted attempts =>
      "RefreshExhausted \x7b attempts: " ++ Decimal.text attempts ++ " \x7d"
  | .tokenCleared => "TokenCleared"
  | .authFailed reason => "AuthFailed \x7b reason: " ++ Text.Quoted.encode reason ++ " \x7d"

def eventRecord (event : AuthEvent) : Record :=
  match event with
  | .refreshExhausted _ => ⟨.warn, "Re-authentication required: " ++ eventText event⟩
  | .authFailed _ => ⟨.warn, "Re-authentication required: " ++ eventText event⟩
  | _ => ⟨.info, "Auth event: " ++ eventText event⟩

/-! ## Who the device is -/

def addressVariable : String := "TEDDY_DEVICE_MAC"

def standardAddress : String := "02:00:00:00:00:01"

def readAddress (text : String) : Except Failure Address :=
  match DeviceId.canonical text with
  | .error failure => .error (.field failure)
  | .ok id =>
      match (Hexadecimal.decode? id).bind Address.ofOctets? with
      | some address => .ok address
      | none => .error (.field (.deviceId id))

def readSettings (environment : Environment) : Except Failure (Settings × Address) := do
  let settings ← Settings.ofEnvironment (environment.value? Settings.baseUrlVariable)
  let address ← readAddress ((environment.value? addressVariable).getD standardAddress)
  pure (settings, address)

/-! ## The flow -/

/-- The client for requests: the replies it will get, unless there is no client. -/
abbrev Line := Except LinkFailure (List Claim.Reply)

structure State where
  device : Device Directory
  log : List Record := []
  logged : Nat := 0
  waited : Bool := false

inductive Halt where
  | abort (abort : Abort)
  | unanswered
deriving DecidableEq

abbrev Flow := ExceptT Halt (StateM State)

namespace Flow

def log (level : Level) (message : String) : Flow Unit :=
  modify fun state => { state with log := state.log ++ [⟨level, message⟩] }

def change {α : Type} (operation : Device Directory → α × Device Directory) : Flow α := do
  let state ← get
  let (result, device) := operation state.device
  set { state with device := device }
  pure result

def operate {α : Type} (operation : Device Directory → Except Abort α × Device Directory) :
    Flow α := do
  match ← change operation with
  | .ok value => pure value
  | .error abort => throw (.abort abort)

def perform {α : Type} (action : Action α) : Flow α :=
  operate fun device =>
    match device.perform action with
    | (.ok value, device) => (.ok value, device)
    | (.error failure, device) => (.error (Failure.store failure), device)

end Flow

/-- Run the refreshes that were launched. A panic ends nothing but the refresh. -/
def runLaunched (device : Device Directory) : Device Directory :=
  device.keeper.tasks.foldl
    (fun device task =>
      match task.duty with
      | .refresh => (device.openLaunched task.id).2
      | _ => device)
    device

def wait : Flow Unit :=
  modify fun state =>
    let device := runLaunched state.device
    { state with
      device := device
      log := state.log ++ (device.keeper.events.drop state.logged).map eventRecord
      logged := device.keeper.events.length }

def awaitStop : Flow Unit := do
  wait
  modify fun state => { state with waited := true }
  Flow.log .info "Shutting down..."
  modify fun state => { state with device := state.device.shutdown }

def post (replies : List Claim.Reply) (effort : Claim.Effort) :
    Flow (Except Abort Claim.Grant) := do
  match ← Flow.change (·.prepareRequest effort.childId) with
  | .error failure => pure (.error failure)
  | .ok _ =>
      wait
      match ← Flow.change (·.awaitReplies replies effort) with
      | some result => pure result
      | none => throw .unanswered

def claim (replies : List Claim.Reply) (code : String) : Flow (Except Abort Unit) := do
  match (← get).device.admitClaim code with
  | .error failure => pure (.error failure)
  | .ok () =>
      match ← Flow.change (·.openClaim code) with
      | .error failure => pure (.error failure)
      | .ok effort =>
          let result ← post replies effort
          Flow.change (·.closeClaim result)

def claimStored (line : Line) : Flow Unit := do
  match ← Flow.perform Credentials.loadPairingCode with
  | none => Flow.log .warn "No pairing code stored; cannot claim"
  | some code =>
      match line with
      | .error failure => throw (.abort (Failure.link failure))
      | .ok replies =>
          match ← claim replies code with
          | .ok () => pure ()
          | .error (.failure failure) =>
              Flow.log .error ("Device claim failed: " ++ failure.message)
          | .error (.panic panic) => throw (.abort panic)

def keepToken (line : Line) : Flow Unit := do
  match ← Flow.perform Credentials.loadNetwork with
  | some network =>
      Flow.log .info
        ("WiFi credentials for " ++ Text.Quoted.encode network.ssid ++ " available")
  | none => pure ()
  Flow.operate (·.loadToken)
  let device := (← get).device
  if device.keeper.isTokenValid device.settings device.now then
    let left := (device.keeper.record.map (·.remaining device.now)).getD 0
    Flow.log .info ("Token valid for " ++ Decimal.text left ++ "s")
  else claimStored line
  awaitStop

def start (line : Line) : Flow Unit := do
  let device := (← get).device
  Flow.log .info ("Credential store at " ++ Text.Quoted.encode device.store.root)
  let id ← Flow.perform (Credentials.loadDeviceId device.address)
  Flow.log .info ("Device ID: " ++ id)
  let _ ← Flow.perform (Credentials.loadSecret device.address)
  if ← Flow.perform Credentials.isProvisioned then keepToken line
  else
    Flow.log .warn
      "No BLE on host; seal a packet with `provisioning-packet` and deliver it from a device"
    Flow.log .warn "Device not provisioned; nothing to authenticate"

/-! ## The whole run -/

structure Report where
  log : List Record
  halt : Option Halt := none
  waited : Bool := false
  store : Option Directory := none

def fatal (failure : Failure) : Record := ⟨.error, "Fatal: " ++ failure.message⟩

def lastRecords : Option Halt → List Record
  | some (.abort (.failure failure)) => [fatal failure]
  | _ => []

def goesOn : Option Halt → Bool
  | none => true
  | some (.abort (.failure _)) => true
  | _ => false

def runFlow (environment : Environment) (home : Option String) (node : FileNode) (line : Line)
    (now : UInt32) (random : Octets) : Report :=
  match readSettings environment with
  | .error failure => { log := [], halt := some (.abort failure) }
  | .ok (settings, address) =>
      match Directory.openDefault home node with
      | .error failure => { log := [], halt := some (.abort (Failure.store failure)) }
      | .ok store =>
          let (result, state) :=
            (start line).run { device := Device.create settings address now random store }
          let halt :=
            match result with
            | .ok () => none
            | .error halt => some halt
          { log := state.log, halt := halt, waited := state.waited,
            store := some state.device.store }

def run (environment : Environment) (home : Option String) (node : FileNode) (line : Line)
    (now : UInt32) (random : Octets) : Report :=
  let report := runFlow environment home node line now random
  let opening : List Record :=
    [⟨.info, "=== Teddy auth core starting ==="⟩, ⟨.info, "Platform: Host"⟩]
  let closing : List Record :=
    if goesOn report.halt then [⟨.info, "Shutdown complete"⟩] else []
  { report with
    log := shown environment (opening ++ report.log ++ lastRecords report.halt ++ closing) }

def Report.status (report : Report) : Nat :=
  match report.halt with
  | some (.abort (.panic _)) => 101
  | _ => 0

end Boot

end DeviceAuth
