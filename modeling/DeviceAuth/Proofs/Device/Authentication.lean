import DeviceAuth.Proofs.Device.Attempts

/-! What a claim that is granted leaves behind. The pairing code, the identity, what was granted
and the record are stored one after the other, and none of them is written over what another one
left; the keeper, whatever it was doing before, holds the new record and waits for nothing. -/

namespace DeviceAuth

/-! ## The ids -/

namespace Credentials

variable {id childId : String} {shelf : Shelf}

structure HoldsIds (id childId : String) (shelf : Shelf) : Prop where
  deviceId : HoldsText .deviceId id shelf
  valid : DeviceId.isValid id = true
  childId : HoldsText .childId childId shelf

theorem HoldsIds.run {α : Type} (holds : HoldsIds id childId shelf) {program : Program α}
    (alone : ∀ cell ∈ [Cell.deviceId, Cell.childId], program.LeavesAlone cell.location) :
    HoldsIds id childId (program.run shelf).2 where
  deviceId := holds.deviceId.run (alone .deviceId (.head _))
  valid := holds.valid
  childId := holds.childId.run (alone .childId (.tail _ (.head _)))

theorem HoldsIds.run_tokenIds (holds : HoldsIds id childId shelf) (address : Address) :
    (Device.tokenIds address).run shelf = ((id, childId), shelf) := by
  have first : (loadDeviceId address).run.run shelf = (.ok id, shelf) :=
    loadDeviceId_of_holds holds.deviceId holds.valid
  have second : loadChildId.run.run shelf = (.ok (some childId), shelf) :=
    perform_readText holds.childId
  rw [Device.tokenIds, Program.run_bind, first]
  dsimp only
  rw [Program.run_bind, second]
  rfl

end Credentials

/-! ## Grants -/

namespace Claim.Grant

open Credentials (writesOnly_saveTokens)

def cells : List Cell := [.accessToken, .refreshToken, .pairingCode, .payload, .deviceConfig]

theorem writesOnly_artifacts (settings : Settings) (grant : Grant) :
    ∀ action ∈ grant.artifacts settings, action.WritesOnly cells := by
  have saves : ∀ {cell : Cell}, cell ∈ cells → ∀ (value : Octets) (space : String),
      Action.WritesOnly cells (do
        cell.write value
        Action.commit space) :=
    fun member value space =>
      (Cell.writesOnly_save _ value space).mono (List.cons_subset.mpr ⟨member, nofun⟩)
  intro action member
  simp only [artifacts, List.mem_cons, List.mem_append, Option.mem_toList,
    Option.map_eq_some_iff] at member
  rcases member with rfl | (⟨code, _, rfl⟩ | ⟨payload, _, rfl⟩) | ⟨config, _, rfl⟩
  · exact (writesOnly_saveTokens _ _).mono (by decide)
  · exact saves (by decide) _ _
  · exact saves (by decide) _ _
  · exact saves (by decide) _ _

theorem leavesAlone_performAll {location : Location} {actions : List (Action Unit)}
    (alone : ∀ action ∈ actions, action.LeavesAlone location) :
    (performAll actions).LeavesAlone location := by
  induction actions with
  | nil => trivial
  | cons action rest induction =>
      apply Program.LeavesAlone.bind (alone action (.head rest))
      intro first
      apply Program.LeavesAlone.bind
        (induction fun other member => alone other (.tail action member))
      intro others
      cases first with
      | ok => trivial
      | error failure => trivial

theorem leavesAlone_keep (settings : Settings) (grant : Grant) {cell : Cell}
    (other : cell ∉ cells) : (performAll (grant.artifacts settings)).LeavesAlone cell.location :=
  leavesAlone_performAll fun action member =>
    writesOnly_artifacts settings grant action member cell other

end Claim.Grant

/-! ## The keeper -/

namespace Keeper

variable {keeper : Keeper} {settings : Settings} {now : UInt32} {held : TokenRecord}

theorem phase_replace_valid_iff (settings : Settings) (now : UInt32) (record : TokenRecord)
    (keeper : Keeper) : (keeper.replace settings now record).phase = .valid ↔
      record.isValidAt now settings.validityMargin.secondsWord = true := by
  show (if record.isValidAt now settings.validityMargin.secondsWord then Phase.valid
    else .invalidOrMissing) = .valid ↔ _
  split
  next valid => exact iff_of_true rfl valid
  next invalid => exact iff_of_false nofun invalid

theorem schedule_quiet (settings : Settings) (now : UInt32) (keeper : Keeper) :
    (keeper.schedule settings now).2.events = keeper.events ∧
      (keeper.schedule settings now).2.watchdog = keeper.watchdog := by
  obtain ⟨_, _, _, equal⟩ := schedule_keeps settings now keeper
  rw [equal]
  exact ⟨rfl, rfl⟩

structure Confirms (settings : Settings) (now : UInt32) (held : TokenRecord)
    (before after : Keeper) : Prop where
  record : after.record = some held
  retries : after.retries = 0
  free : after.inFlight = false
  unawaited : ∀ generation, ¬ after.IsAwaited generation
  watchdog : after.watchdog = none
  phase : after.phase = .valid ↔ after.isTokenValid settings now = true
  told : after.events = before.events ++ [.tokenStored held.expiry, .authenticated held.expiry]

theorem confirms_replace (settings : Settings) (now : UInt32) (held : TokenRecord)
    (keeper : Keeper) :
    let replaced := (keeper.replace settings now held).emit (.tokenStored held.expiry)
    let scheduled := (replaced.schedule settings now).2
    Confirms settings now held keeper
      (scheduled.resetRetries.emit (.authenticated held.expiry)) := by
  intro replaced scheduled
  obtain ⟨free, _, phase⟩ := replaced.schedule_kept settings now
  obtain ⟨events, watchdog⟩ := replaced.schedule_quiet settings now
  have record : scheduled.record = some held := replaced.record_schedule settings now
  exact {
    record := record
    retries := rfl
    free := free
    unawaited := fun _ awaited =>
      keeper.phase_replace_ne settings now held (phase.symm.trans awaited.2)
    watchdog := watchdog
    phase := by
      have usable : (scheduled.resetRetries.emit (.authenticated held.expiry)).isTokenValid
          settings now = held.isValidAt now settings.validityMargin.secondsWord :=
        isTokenValid_of_held settings now record
      rw [usable, ← phase_replace_valid_iff settings now held keeper]
      exact iff_of_eq (congrArg (· = Phase.valid) phase)
    told := by
      show scheduled.events ++ [_] = _
      rw [show scheduled.events = keeper.events ++ [_] from events, List.append_assoc]
      rfl }

end Keeper

/-! ## Up to the end of a claim -/

namespace Device

open Credentials (HoldsIds HoldsText)
open Reliable (Works shelf perform_agrees run_agrees)

variable {σ : Type} [Backend σ] [Reliable σ] {device : Device σ} {id childId : String}

structure KnowsIds (id childId : String) (device : Device σ) : Prop where
  works : Works device.store
  readable : Contract.readable.Held (shelf device.store)
  holds : HoldsIds id childId (shelf device.store)

structure CanClaim (childId : String) (device : Device σ) : Prop where
  initialized : device.keeper.phase ≠ .uninitialized
  works : Works device.store
  readable : Contract.readable.Held (shelf device.store)
  child : (Credentials.loadChildId.perform device.store).1 = .ok (some childId)

theorem CanClaim.holdsText (canClaim : CanClaim childId device) :
    HoldsText .childId childId (shelf device.store) := by
  have read := (perform_agrees Credentials.loadChildId canClaim.works).result
  exact (Credentials.holdsText_of_readText (Prod.ext (read.symm.trans canClaim.child) rfl)).2

structure Opened (childId : String) (device : Device σ) (store : σ) : Prop where
  works : Works store
  readable : Contract.readable.Held (shelf store)
  child : HoldsText .childId childId (shelf store)
  sameId : (shelf store).look Cell.deviceId.location =
    (shelf device.store).look Cell.deviceId.location

theorem opened_savePairingCode (canClaim : CanClaim childId device) (code : String) :
    Opened childId device ((Credentials.savePairingCode code).perform device.store).2 := by
  have saving := perform_agrees (Credentials.savePairingCode code) canClaim.works
  have writes := Cell.writesOnly_save .pairingCode (Octets.ofText code) Cell.credentials
  have child : (Credentials.savePairingCode code).LeavesAlone Cell.childId.location :=
    writes .childId (by decide)
  have deviceId : (Credentials.savePairingCode code).LeavesAlone Cell.deviceId.location :=
    writes .deviceId (by decide)
  constructor
  case works => exact saving.works
  all_goals rw [saving.shelf]
  case readable =>
    apply Credentials.held_perform canClaim.readable
    apply Cell.keeps_save
    apply Contract.takes_readable
    exact Option.isSome_of_eq_some (Octets.toText?_ofText code)
  case child => exact canClaim.holdsText.run child
  case sameId => exact deviceId.look_run _

theorem openClaim_of_canClaim (canClaim : CanClaim childId device) (code : String) :
    ∃ store, device.openClaim code =
        (.ok (.persistent device.settings childId), { device with store := store }) ∧
      Opened childId device store := by
  let saved := ((Credentials.savePairingCode code).perform device.store).2
  have opened : Opened childId device saved := opened_savePairingCode canClaim code
  have loading := perform_agrees Credentials.loadChildId opened.works
  have read : Credentials.loadChildId.perform (shelf saved) = (.ok (some childId), shelf saved) :=
    Credentials.perform_readText opened.child
  rw [read] at loading
  have same : shelf (Credentials.loadChildId.perform saved).2 = shelf saved := loading.shelf
  have found : Credentials.loadChildId.perform saved =
      (.ok (some childId), (Credentials.loadChildId.perform saved).2) :=
    Prod.ext loading.result rfl
  refine ⟨(Credentials.loadChildId.perform saved).2, ?_, loading.works, same ▸ opened.readable,
    same ▸ opened.child, same ▸ opened.sameId⟩
  unfold openClaim perform
  dsimp only
  rw [found]

theorem holdsIds_identified {secret : Secret} (identifies : Identifies (id, secret) device)
    (child : HoldsText .childId childId (shelf device.store)) :
    ((Credentials.loadDeviceId device.address).perform (shelf device.store)).1 = .ok id ∧
      HoldsIds id childId device.identified := by
  have loaded : (Credentials.loadIdentity device.address).perform (shelf device.store) =
      (.ok (id, secret), device.identified) := Prod.ext identifies.loads rfl
  obtain ⟨named, holds, valid, _⟩ := Credentials.holds_of_loadIdentity loaded
  have alone := Credentials.writesOnly_loadIdentity device.address .childId (by decide)
  exact ⟨named, holds, valid, child.run alone⟩

/-- A claim goes on with the outcome that decides it. By then the ids are stored, the id of the
device being the one that could be loaded from the beginning. -/
theorem claimInTurn_of_decides {replies : List Claim.Reply} {index : Nat} {reply : Claim.Reply}
    (canClaim : CanClaim childId device)
    (decides : Claim.Decides (max 1 device.settings.claimAttempts) replies index reply)
    (drawn : ∀ attempt < index, ∃ delay,
      Claim.delayAt device.settings device.random attempt = .ok delay) (code : String) :
    ∃ id store used, device.claimInTurn code replies =
        closeAttempts (some reply.outcome.result, device.later store used reply.now) ∧
      KnowsIds id childId (device.later store used reply.now) ∧
      ((Credentials.loadDeviceId device.address).perform device.store).1 = .ok id := by
  obtain ⟨store, began, opened⟩ := openClaim_of_canClaim canClaim code
  let claiming : Device σ := { device with store := store }
  obtain ⟨⟨id, secret⟩, after, loaded⟩ :=
    Credentials.exists_loadIdentity device.address opened.readable
  have identifies : claiming.Identifies (id, secret) := ⟨opened.works, congrArg Prod.fst loaded⟩
  obtain ⟨named, holds⟩ := holdsIds_identified identifies opened.child
  let delay (attempt : Nat) : Span :=
    (Claim.delayAt device.settings device.random attempt).toOption.getD Span.zero
  have given : ∀ attempt < index,
      Claim.delayAt claiming.settings claiming.random attempt = .ok (delay attempt) := by
    intro attempt before
    obtain ⟨span, found⟩ := drawn attempt before
    show Claim.delayAt device.settings device.random attempt = .ok (Option.getD _ _)
    rw [found]
    rfl
  obtain ⟨final, works, identified, made⟩ :=
    makeAttempts_persistent identifies decides given childId
  have attempted : claiming.attemptClaim replies (.persistent device.settings childId) =
      (some reply.outcome.result, device.later final
        (index * Claim.octetsPerAttempt + Claim.nonceSize) reply.now) := by
    rw [attemptClaim_eq_makeAttempts,
      show claiming.makeAttempts replies (.persistent device.settings childId) = _ from made]
    rfl
  have readable : Contract.readable.Held (shelf final) := by
    rw [identified]
    exact Credentials.held_perform opened.readable
      (Credentials.keeps_loadIdentity Contract.serves_readable device.address)
  refine ⟨id, final, index * Claim.octetsPerAttempt + Claim.nonceSize, ?_,
    ⟨works, readable, identified ▸ holds⟩, ?_⟩
  · rw [claimInTurn, began]
    exact congrArg closeAttempts attempted
  · rw [(perform_agrees _ canClaim.works).result, ← named]
    exact (Credentials.result_loadDeviceId canClaim.readable opened.sameId).symm

/-! ## Holding what was granted -/

section Closing

variable {grant : Claim.Grant}

omit [Reliable σ] in
theorem storeToken_eq_schedule {token : String} (lifetime : UInt32)
    (given : token.isEmpty = false) (initialized : device.keeper.phase ≠ .uninitialized) :
    (device.storeToken token lifetime).2 =
      (device.holdToken token lifetime).2.schedule.2 := by
  obtain ⟨record, store, _, _, held⟩ := holdToken_ok lifetime given initialized
  rw [storeToken, held]
  dsimp only
  split
  next scheduled => rw [scheduled]
  next scheduled => rw [scheduled]

omit [Backend σ] [Reliable σ] in
theorem confirmClaim_of_held {record : TokenRecord}
    (held : device.keeper.record = some record) : device.confirmClaim = { device with
      keeper := device.keeper.resetRetries.emit (.authenticated record.expiry) } := by
  have same : device.keeper.resetRetries.record = some record := held
  simp only [confirmClaim, onKeeper, emit, same, Option.map_some, Option.getD_some]

omit [Reliable σ] in
theorem newRecord_of_ids (ids : ((tokenIds device.address).run device.store).1 = (id, childId))
    (token : String) (lifetime : UInt32) : device.newRecord token lifetime =
      ⟨token, expiryAfter device.now lifetime, id, childId⟩ := by
  simp only [newRecord, ids]

theorem holdGrant_of_knowsIds (knows : KnowsIds id childId device)
    (given : grant.accessToken.isEmpty = false)
    (initialized : device.keeper.phase ≠ .uninitialized) :
    let held : TokenRecord :=
      ⟨grant.accessToken, expiryAfter device.now grant.lifetime, id, childId⟩
    ∃ store keeper, device.holdGrant grant =
        (.ok (), { device with store := store, keeper := keeper }) ∧
      Keeper.Confirms device.settings device.now held device.keeper keeper ∧
      Works store ∧ shelf store = ((Credentials.saveRecord held).perform
        ((grant.keep device.settings).perform (shelf device.store)).2).2 := by
  intro held
  let kept := (device.keepGrant grant).2
  have elsewhere : ∀ cell ∈ [Cell.deviceId, Cell.childId], cell ∉ Claim.Grant.cells := by decide
  have keeping := perform_agrees (grant.keep device.settings) knows.works
  have keptShelf : shelf kept.store = ((grant.keep device.settings).perform
    (shelf device.store)).2 := keeping.shelf
  have holds : HoldsIds id childId (shelf kept.store) := by
    rw [keptShelf]
    exact knows.holds.run fun cell member =>
      grant.leavesAlone_keep device.settings (elsewhere cell member)
  have naming : Agrees Works shelf ((tokenIds device.address).run kept.store)
      ((tokenIds device.address).run (shelf kept.store)) := run_agrees _ keeping.works
  rw [holds.run_tokenIds device.address] at naming
  have record : kept.newRecord grant.accessToken grant.lifetime = held :=
    newRecord_of_ids naming.result grant.accessToken grant.lifetime
  have saving := perform_agrees (Credentials.saveRecord held) naming.works
  have stored := holdToken_stored grant.lifetime given
    (show kept.keeper.phase ≠ .uninitialized from initialized)
  rw [record] at stored
  have confirmed := device.keeper.confirms_replace device.settings device.now held
  refine ⟨_, _, ?_, confirmed, saving.works, ?_⟩
  · rw [holdGrant_of_given given initialized, storeToken_eq_schedule grant.lifetime given
      (show kept.keeper.phase ≠ .uninitialized from initialized), stored]
    refine congrArg (Prod.mk _) ?_
    exact confirmClaim_of_held confirmed.record
  · rw [saving.shelf, naming.shelf, keptShelf]

end Closing

/-! ## The whole claim -/

/-- A grant that came at a time is in force: its token is held and stored, under the ids of the
device and the child, until its lifetime is over or for as long as can be told. -/
structure InForce (grant : Claim.Grant) (now : UInt32) (held : TokenRecord)
    (before after : Device σ) : Prop where
  token : held.token = grant.accessToken
  expiry : held.expiry.toNat = min (now.toNat + grant.lifetime.toNat) (UInt32.size - 1)
  deviceId : ((Credentials.loadDeviceId before.address).perform before.store).1 =
    .ok held.deviceId
  childId : (Credentials.loadChildId.perform before.store).1 = .ok (some held.childId)
  clock : after.now = now
  confirms : Keeper.Confirms before.settings now held before.keeper after.keeper
  works : Works after.store
  loads : (Credentials.loadRecord.perform after.store).1 = .ok (some held)
  refreshToken : (Credentials.loadRefreshToken.perform after.store).1 =
    .ok (some grant.refreshToken)

theorem KnowsIds.fits (knows : KnowsIds id childId device) {token : String}
    (small : token.utf8ByteSize ≤ Backend.greatestValue) (expiry : UInt32) :
    TokenRecord.Fits ⟨token, expiry, id, childId⟩ where
  token := small
  deviceId := (knows.readable .deviceId _ knows.holds.deviceId).2
  childId := (knows.readable .childId _ knows.holds.childId).2

theorem loads_saveRecord_keep {grant : Claim.Grant} {held : TokenRecord} {store : σ}
    {before : Shelf} (grantFits : grant.Fits) (settings : Settings)
    (given : held.token.isEmpty = false) (fits : held.Fits) (works : Works store)
    (saved : shelf store = ((Credentials.saveRecord held).perform
      ((grant.keep settings).perform before).2).2) :
    (Credentials.loadRecord.perform store).1 = .ok (some held) ∧
      (Credentials.loadRefreshToken.perform store).1 = .ok (some grant.refreshToken) := by
  have refreshable : HoldsText .refreshToken grant.refreshToken (shelf store) := by
    have canWrite : Honest.CanWrite before := trivial
    have kept : HoldsText .refreshToken grant.refreshToken
        ((grant.keep settings).perform before).2 :=
      Claim.Grant.look_refreshToken_keep canWrite grantFits settings
    rw [saved]
    exact kept.run (Credentials.leavesAlone_saveRecord held)
  constructor
  · rw [(perform_agrees Credentials.loadRecord works).result, saved]
    exact Credentials.loadRecord_saveRecord given fits _
  · rw [(perform_agrees Credentials.loadRefreshToken works).result]
    exact congrArg Prod.fst (Credentials.perform_readText refreshable)

/-- A claim whose deciding outcome is a grant succeeds and puts the grant in force, whatever the
keeper was doing before, as long as every delay that is drawn up to then is a span. -/
theorem inForce_authenticate {code : String} {replies : List Claim.Reply} {index : Nat}
    {reply : Claim.Reply} {grant : Claim.Grant} (canClaim : CanClaim childId device)
    (valid : PairingCode.check code = .ok ())
    (decides : Claim.Decides (max 1 device.settings.claimAttempts) replies index reply)
    (grants : reply.outcome.grant = .ok grant) (given : grant.accessToken.isEmpty = false)
    (fits : grant.Fits)
    (drawn : ∀ attempt < index, ∃ delay,
      Claim.delayAt device.settings device.random attempt = .ok delay) :
    (device.authenticate code replies).1 = some (.ok ()) ∧
      ∃ held, InForce grant reply.now held device (device.authenticate code replies).2 := by
  have admitted : device.admitClaim code = .ok () := by
    simp only [admitClaim, if_neg canClaim.initialized, valid]
  obtain ⟨id, store, used, claimed, knows, named⟩ :=
    claimInTurn_of_decides canClaim decides drawn code
  obtain ⟨after, keeper, granted, confirms, works, saved⟩ :=
    holdGrant_of_knowsIds knows given canClaim.initialized
  have ended : device.authenticate code replies = (some (.ok ()),
      { device.later store used reply.now with store := after, keeper := keeper }) := by
    simp only [authenticate, admitted, claimed, closeAttempts, Claim.Outcome.result, grants,
      Except.mapError, closeClaim, granted]
  have small := knows.fits fits.accessToken (expiryAfter reply.now grant.lifetime)
  obtain ⟨loads, refreshable⟩ := loads_saveRecord_keep fits _ given small works saved
  rw [ended]
  refine ⟨rfl, ⟨grant.accessToken, expiryAfter reply.now grant.lifetime, id, childId⟩, ?_⟩
  exact {
    token := rfl
    expiry := toNat_expiryAfter reply.now grant.lifetime
    deviceId := named
    childId := canClaim.child
    clock := rfl
    confirms := confirms
    works := works
    loads := loads
    refreshToken := refreshable }

def bereft : Device Memory :=
  { stocked with
    store := { contents := ⟨[(Cell.childId.location, Octets.ofText "child")]⟩ } }

theorem canClaim_bereft : CanClaim "child" bereft where
  initialized := by decide +kernel
  works := ⟨rfl, rfl⟩
  readable := by
    have empty : Contract.readable.Held (Memory.shelf {}) :=
      Contract.held_of_empty fun _ => rfl
    have child : Contract.readable.Finds .childId (some (Octets.ofText "child")) := by
      rintro _ ⟨⟩
      exact ⟨Option.isSome_of_eq_some (Octets.toText?_ofText "child"), by decide +kernel⟩
    have held := empty.put child
    rw [← Memory.shelf_set] at held
    exact held
  child := by decide +kernel

theorem grant_granted : ∃ grant, granted.outcome.grant = .ok grant ∧
    grant.accessToken = "access" ∧ grant.refreshToken = "refresh" ∧ grant.lifetime = 3600 := by
  have known : granted.outcome.grant.toOption.map
      (fun grant => (grant.accessToken, grant.refreshToken, grant.lifetime)) =
        some ("access", "refresh", 3600) := by decide +kernel
  generalize granted.outcome.grant = result at known ⊢
  cases result with
  | error failure => cases known
  | ok grant =>
      simp only [Except.toOption, Option.map_some, Option.some.injEq, Prod.mk.injEq] at known
      exact ⟨grant, rfl, known⟩

theorem inForce_lateGrant :
    CanClaim "child" bereft ∧ PairingCode.check "PAIR-1234" = .ok () ∧
      Claim.Decides (max 1 bereft.settings.claimAttempts) (late granted) 1 granted ∧
      (∀ attempt < 1, ∃ delay,
        Claim.delayAt bereft.settings bereft.random attempt = .ok delay) ∧
      (bereft.authenticate "PAIR-1234" (late granted)).1 = some (.ok ()) ∧
      ∃ grant held, granted.outcome.grant = .ok grant ∧ grant.accessToken.isEmpty = false ∧
        grant.Fits ∧
        InForce grant 1000 held bereft (bereft.authenticate "PAIR-1234" (late granted)).2 := by
  have valid : PairingCode.check "PAIR-1234" = .ok () := by decide +kernel
  have decides : Claim.Decides 5 (late granted) 1 granted := decides_late rfl
  have drawn : ∀ attempt < 1, ∃ delay,
      Claim.delayAt bereft.settings bereft.random attempt = .ok delay := by
    intro attempt before
    obtain rfl : attempt = 0 := Nat.lt_one_iff.mp before
    exact ⟨⟨787247213⟩, by decide +kernel⟩
  obtain ⟨grant, grants, access, refresh, _⟩ := grant_granted
  have given : grant.accessToken.isEmpty = false := by
    rw [access]
    decide
  have fits : grant.Fits := by
    constructor
    · rw [access]
      decide
    · rw [refresh]
      decide
  obtain ⟨succeeded, held, inForce⟩ :=
    inForce_authenticate canClaim_bereft valid decides grants given fits drawn
  exact ⟨canClaim_bereft, valid, decides, drawn, succeeded, grant, held, grants, given, fits,
    inForce⟩

/-- With rests that are too long the claim ends with a panic. There is no second request, and
so no token, although the device can make a claim and the grant that decides it is in order. -/
theorem not_inForce_tooLate :
    let device := { weary with store := bereft.store }
    device.settings.check = .ok () ∧ CanClaim "child" device ∧
      PairingCode.check "PAIR-1234" = .ok () ∧
      Claim.Decides (max 1 device.settings.claimAttempts) (late granted) 1 granted ∧
      (∃ grant, granted.outcome.grant = .ok grant ∧ grant.accessToken = "access" ∧
        grant.refreshToken = "refresh" ∧ grant.lifetime = 3600) ∧
      (device.authenticate "PAIR-1234" (late granted)).1 = some (.error Panic.span) := by
  intro device
  have canClaim : CanClaim "child" device := ⟨canClaim_bereft.initialized, canClaim_bereft.works,
    canClaim_bereft.readable, canClaim_bereft.child⟩
  exact ⟨by decide +kernel, canClaim, by decide +kernel, decides_late rfl, grant_granted,
    by decide +kernel⟩

end Device

end DeviceAuth
