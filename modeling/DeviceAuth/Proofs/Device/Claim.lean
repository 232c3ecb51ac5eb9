import DeviceAuth.Proofs.Device.Schedule
import DeviceAuth.Proofs.Storage.Records
import DeviceAuth.Proofs.Storage.Spaces

/-! What a claim does to the token of a device. Up to its end it leaves the token alone,
in memory and in the store. When it ends with a grant, the granted tokens are stored
first, and only then is it found out whether the token can be held. -/

namespace DeviceAuth

theorem Claim.Effort.retriesLeft_of_rest {result : Except Failure Grant} {random rest : Octets}
    {effort next : Effort} {delay : Span}
    (judged : effort.judge result random = (.rest delay, next, rest)) :
    next.retriesLeft < effort.retriesLeft := by
  unfold judge at judged
  cases result with
  | ok grant => cases judged
  | error failure =>
      dsimp only at judged
      split at judged
      next retry =>
        have positive := of_decide_eq_true (Bool.and_eq_true_iff.mp retry).2
        split at judged
        next =>
          obtain rfl := congrArg (·.2.1) judged
          show effort.retriesLeft - 1 < effort.retriesLeft
          omega
        next => cases judged
      next => cases judged

namespace Device

variable {σ : Type} [Backend σ] {before middle after : Device σ}

/-! ## Up to the end of a claim -/

structure UsesCredentials (before after : Device σ) : Prop where
  keeper : after.keeper = before.keeper
  store : ∃ (α : Type) (program : Program α), program.StaysWithin Cell.credentials ∧
    after.store = (program.run before.store).2

namespace UsesCredentials

theorem of_run {α : Type} {program : Program α} (within : program.StaysWithin Cell.credentials)
    (keeper : after.keeper = before.keeper) (store : after.store = (program.run before.store).2) :
    UsesCredentials before after :=
  ⟨keeper, α, program, within, store⟩

theorem of_same (keeper : after.keeper = before.keeper) (store : after.store = before.store) :
    UsesCredentials before after :=
  ⟨keeper, Unit, .done (), trivial, store⟩

theorem trans (first : UsesCredentials before middle) (second : UsesCredentials middle after) :
    UsesCredentials before after := by
  obtain ⟨_, earlier, earlierWithin, ran⟩ := first.store
  obtain ⟨_, later, laterWithin, last⟩ := second.store
  refine ⟨second.keeper.trans first.keeper, _, earlier >>= fun _ => later,
    earlierWithin.bind fun _ => laterWithin, ?_⟩
  rw [last, ran, Program.run_bind]

end UsesCredentials

theorem usesCredentials_openClaim (code : String) (device : Device σ) :
    UsesCredentials device (device.openClaim code).2 := by
  have saved : UsesCredentials device (device.perform (Credentials.savePairingCode code)).2 :=
    .of_run (Credentials.staysWithin_savePairingCode code) rfl rfl
  have read : UsesCredentials (device.perform (Credentials.savePairingCode code)).2
      ((device.perform (Credentials.savePairingCode code)).2.perform Credentials.loadChildId).2 :=
    .of_run (Cell.staysWithin_readAs _ .childId) rfl rfl
  have loaded := saved.trans read
  unfold openClaim
  dsimp only
  split
  all_goals
    next performed =>
      rw [performed] at loaded
      exact loaded

theorem store_prepareRequest (childId : String) (device : Device σ) :
    (device.prepareRequest childId).2.store =
      ((Credentials.loadIdentity device.address).perform device.store).2 := by
  unfold prepareRequest Claim.Request.prepare
  dsimp only
  split
  next read => rw [read]
  next read => rw [read]

theorem usesCredentials_prepareRequest (childId : String) (device : Device σ) :
    UsesCredentials device (device.prepareRequest childId).2 :=
  .of_run (Credentials.staysWithin_loadIdentity device.address) rfl
    (store_prepareRequest childId device)

theorem usesCredentials_awaitReplies (replies : List Claim.Reply) (effort : Claim.Effort)
    (device : Device σ) : UsesCredentials device (device.awaitReplies replies effort).2 := by
  induction replies generalizing device effort with
  | nil => exact .of_same rfl rfl
  | cons reply rest induction =>
      have judged : UsesCredentials device
          ({ device with now := reply.now }.judge reply.outcome.grant effort).2.2 :=
        .of_same rfl rfl
      unfold awaitReplies
      split
      next equal =>
        rw [equal] at judged
        exact judged
      next next_ resting equal =>
        rw [equal] at judged
        have prepared := judged.trans (usesCredentials_prepareRequest next_.childId resting)
        split
        next posted =>
          rw [posted] at prepared
          exact prepared
        next posted =>
          rw [posted] at prepared
          exact prepared.trans (induction next_ _)

theorem usesCredentials_attemptClaim (replies : List Claim.Reply) (effort : Claim.Effort)
    (device : Device σ) : UsesCredentials device (device.attemptClaim replies effort).2 := by
  have prepared := usesCredentials_prepareRequest effort.childId device
  unfold attemptClaim
  split
  next posted =>
    rw [posted] at prepared
    exact prepared
  next posted =>
    rw [posted] at prepared
    exact prepared.trans (usesCredentials_awaitReplies replies effort _)

end Device

/-! ## The token -/

namespace Device

open Reliable (Works shelf perform_agrees run_agrees)

variable {σ : Type} [Backend σ] [Reliable σ] {before middle after : Device σ}

/-- The token of a device is what it was before, in memory and in the store. -/
structure SameToken (before after : Device σ) : Prop where
  record : after.keeper.record = before.keeper.record
  phase : after.keeper.phase = before.keeper.phase
  works : Works after.store
  loads : (Credentials.loadRecord.perform after.store).1 =
    (Credentials.loadRecord.perform before.store).1

namespace SameToken

theorem refl (works : Works before.store) : SameToken before before := ⟨rfl, rfl, works, rfl⟩

theorem trans (first : SameToken before middle) (second : SameToken middle after) :
    SameToken before after where
  record := second.record.trans first.record
  phase := second.phase.trans first.phase
  works := second.works
  loads := second.loads.trans first.loads

theorem of_usesCredentials (uses : UsesCredentials before after) (works : Works before.store) :
    SameToken before after := by
  obtain ⟨α, program, within, store⟩ := uses.store
  have agrees := run_agrees program works
  have worksAfter : Works after.store := by
    rw [store]
    exact agrees.works
  refine ⟨congrArg _ uses.keeper, congrArg _ uses.keeper, worksAfter, ?_⟩
  rw [(perform_agrees Credentials.loadRecord worksAfter).result, store, agrees.shelf,
    Credentials.loadRecord_of_staysWithin within,
    (perform_agrees Credentials.loadRecord works).result]

theorem of_same (works : Works before.store) (store : after.store = before.store)
    (record : after.keeper.record = before.keeper.record)
    (phase : after.keeper.phase = before.keeper.phase) : SameToken before after :=
  ⟨record, phase, store ▸ works, by rw [store]⟩

end SameToken

end Device

/-! ## The end of a claim -/

namespace Device

open Reliable (Works shelf perform_agrees run_agrees)

variable {σ : Type}

/-! ## The failures of a claim -/

def emptyToken : Failure := .state "refusing to store an empty token"

/-- What ends a claim under way without a grant. It comes from the server or the link to it
or from the store, or there is no child to claim a place for, or a delay cannot be
computed. -/
inductive EndsClaim : Abort → Prop where
  | link (failure : LinkFailure) : EndsClaim (Failure.link failure)
  | refused (status : Nat) (message : String) : EndsClaim (Failure.refused status message)
  | store (failure : StoreFailure) : EndsClaim (Failure.store failure)
  | noChild : EndsClaim (Failure.state "no child_id provisioned")
  | panic (panic : Panic) : EndsClaim panic

theorem EndsClaim.ne_emptyToken {abort : Abort} (ends : EndsClaim abort) :
    abort ≠ emptyToken := by
  intro same
  cases ends with
  | noChild => simp [emptyToken] at same
  | _ => cases same

theorem endsClaim_of_grant {outcome : Claim.Outcome} {failure : Failure}
    (failed : outcome.grant = .error failure) : EndsClaim failure := by
  unfold Claim.Outcome.grant at failed
  split at failed
  next answer =>
    unfold Claim.Answer.grant at failed
    split at failed
    next =>
      split at failed
      next => cases failed
      next => exact Except.error.inj failed ▸ .link _
    next =>
      split at failed
      next => exact Except.error.inj failed ▸ .link _
      next =>
        split at failed
        next => exact Except.error.inj failed ▸ .link _
        next =>
          split at failed
          next => exact Except.error.inj failed ▸ .refused _ _
          next => exact Except.error.inj failed ▸ .link _
  next => exact Except.error.inj failed ▸ .link _

theorem judge_finish_error {result : Except Failure Claim.Grant} {effort left : Claim.Effort}
    {abort : Abort} {device after : Device σ}
    (judged : device.judge result effort = (.finish (.error abort), left, after)) :
    (∃ failure : Failure, result = .error failure ∧ abort = failure) ∨
      ∃ panic : Panic, abort = panic := by
  unfold judge Claim.Effort.judge at judged
  cases result with
  | ok grant => simp at judged
  | error given =>
      dsimp only at judged
      split at judged
      · split at judged
        · simp at judged
        next panic _ _ _ =>
          right
          exact ⟨panic, by simpa using congrArg Prod.fst judged.symm⟩
      · left
        exact ⟨given, rfl, by simpa using congrArg Prod.fst judged.symm⟩

theorem retriesLeft_of_rest {result : Except Failure Claim.Grant} {effort next : Claim.Effort}
    {delay : Span} {device after : Device σ}
    (judged : device.judge result effort = (.rest delay, next, after)) :
    next.retriesLeft < effort.retriesLeft := by
  unfold judge at judged
  rcases equal : effort.judge result device.random with ⟨verdict, left, random⟩
  rw [equal] at judged
  simp only [Prod.mk.injEq] at judged
  obtain ⟨rfl, rfl, _⟩ := judged
  exact Claim.Effort.retriesLeft_of_rest equal

variable [Backend σ]

/-! ## Attempts -/

section Attempts

variable {device after : Device σ} {effort next : Claim.Effort}

theorem attemptClaim_of_error {failure : Failure}
    (prepared : device.prepareRequest effort.childId = (.error failure, after))
    (replies : List Claim.Reply) :
    device.attemptClaim replies effort = (some (.error failure), after) := by
  simp only [attemptClaim, prepared]

theorem attemptClaim_of_ok {request : Claim.Request}
    (prepared : device.prepareRequest effort.childId = (.ok request, after))
    (replies : List Claim.Reply) :
    device.attemptClaim replies effort = after.awaitReplies replies effort := by
  simp only [attemptClaim, prepared]

theorem awaitReplies_of_finish (reply : Claim.Reply) {result : Except Abort Claim.Grant}
    (judged : { device with now := reply.now }.judge reply.outcome.grant effort =
      (.finish result, next, after)) (rest : List Claim.Reply) :
    device.awaitReplies (reply :: rest) effort = (some result, after) := by
  simp only [awaitReplies, judged]

theorem awaitReplies_of_rest (reply : Claim.Reply) {delay : Span}
    (judged : { device with now := reply.now }.judge reply.outcome.grant effort =
      (.rest delay, next, after)) (rest : List Claim.Reply) :
    device.awaitReplies (reply :: rest) effort = after.attemptClaim rest next := by
  simp only [awaitReplies, judged]
  rfl

end Attempts

theorem prepareRequest_error {device after : Device σ} {childId : String} {failure : Failure}
    (prepared : device.prepareRequest childId = (.error failure, after)) :
    EndsClaim failure := by
  unfold prepareRequest at prepared
  have result := congrArg Prod.fst prepared
  dsimp only at result
  unfold ofStore at result
  split at result
  · cases result
  · exact Except.error.inj result ▸ .store _

theorem awaitReplies_error {replies : List Claim.Reply} {effort : Claim.Effort}
    {device : Device σ} {abort : Abort}
    (failed : (device.awaitReplies replies effort).1 = some (.error abort)) :
    EndsClaim abort := by
  induction replies generalizing device effort with
  | nil => cases failed
  | cons reply rest induction =>
      unfold awaitReplies at failed
      split at failed
      next judged =>
        obtain rfl := Option.some.inj failed
        rcases judge_finish_error judged with ⟨failure, given, rfl⟩ | ⟨panic, rfl⟩
        · exact endsClaim_of_grant given
        · exact .panic panic
      next =>
        split at failed
        next prepared =>
          obtain rfl := Except.error.inj (Option.some.inj failed)
          exact prepareRequest_error prepared
        next => exact induction failed

theorem attemptClaim_error {replies : List Claim.Reply} {effort : Claim.Effort}
    {device : Device σ} {abort : Abort}
    (failed : (device.attemptClaim replies effort).1 = some (.error abort)) :
    EndsClaim abort := by
  unfold attemptClaim at failed
  split at failed
  next prepared =>
    obtain rfl := Except.error.inj (Option.some.inj failed)
    exact prepareRequest_error prepared
  next => exact awaitReplies_error failed

theorem openClaim_error {device after : Device σ} {code : String} {failure : Failure}
    (opened : device.openClaim code = (.error failure, after)) : EndsClaim failure := by
  unfold openClaim at opened
  dsimp only at opened
  split at opened
  next => exact Except.error.inj (congrArg Prod.fst opened) ▸ .store _
  next => exact Except.error.inj (congrArg Prod.fst opened) ▸ .noChild
  next => cases congrArg Prod.fst opened

omit [Backend σ] in
theorem admitClaim_error {device : Device σ} {code : String} {failure : Failure}
    (refused : device.admitClaim code = .error failure) :
    (failure : Abort) ≠ emptyToken := by
  intro same
  obtain rfl := Abort.failure.inj same
  unfold admitClaim at refused
  split at refused
  · simp [emptyToken, Keeper.notInitialized] at refused
  · split at refused
    · cases refused
    · simp [emptyToken] at refused

omit [Backend σ] in
theorem initialized_of_admitClaim {device : Device σ} {code : String}
    (admitted : device.admitClaim code = .ok ()) : device.keeper.phase ≠ .uninitialized := by
  intro uninitialized
  simp [admitClaim, uninitialized] at admitted

/-! ## Holding what was granted -/

theorem storeToken_empty {token : String} (empty : token.isEmpty = true) (lifetime : UInt32)
    (device : Device σ) : device.storeToken token lifetime = (.error emptyToken, device) := by
  simp only [storeToken, holdToken, empty, if_true]
  rfl

theorem holdGrant_of_empty {grant : Claim.Grant} (empty : grant.accessToken.isEmpty = true)
    (device : Device σ) :
    device.holdGrant grant = (.error emptyToken, (device.keepGrant grant).2) := by
  unfold holdGrant
  dsimp only
  rw [storeToken_empty empty]

theorem holdGrant_of_given {grant : Claim.Grant} (given : grant.accessToken.isEmpty = false)
    {device : Device σ} (initialized : device.keeper.phase ≠ .uninitialized) :
    device.holdGrant grant = (.ok (), ((device.keepGrant grant).2.storeToken grant.accessToken
      grant.lifetime).2.confirmClaim) := by
  have kept : (device.keepGrant grant).2.keeper.phase ≠ .uninitialized := initialized
  obtain ⟨schedule, stored⟩ := storeToken_ok given grant.lifetime kept
  unfold holdGrant
  dsimp only
  split
  next failed =>
    rw [failed] at stored
    cases stored
  next same => rw [same]

theorem holdGrant_ok {grant : Claim.Grant} (given : grant.accessToken.isEmpty = false)
    {device : Device σ} (initialized : device.keeper.phase ≠ .uninitialized) :
    (device.holdGrant grant).1 = .ok () := by
  rw [holdGrant_of_given given initialized]

variable [Reliable σ] {before after : Device σ}

theorem loadRecord_keepGrant {grant : Claim.Grant} (empty : grant.accessToken.isEmpty = true)
    (works : Works before.store) :
    (Credentials.loadRecord.perform (before.keepGrant grant).2.store).1 = .ok none := by
  have agrees := perform_agrees (grant.keep before.settings) works
  have none : grant.accessToken = "" := by simpa using empty
  have small : grant.accessToken.utf8ByteSize ≤ Backend.greatestValue := by
    rw [none]
    decide
  show (Credentials.loadRecord.perform ((grant.keep before.settings).perform before.store).2).1 = _
  rw [(perform_agrees Credentials.loadRecord agrees.works).result, agrees.shelf]
  apply Credentials.loadRecord_of_empty empty
  -- Whatever comes after the tokens belongs to the credentials.
  have within := Claim.staysWithin_performAll
    (Claim.staysWithin_artifacts before.settings grant)
  have saved := Credentials.look_saveTokens small grant.refreshToken (shelf before.store)
  refine (congrArg (Shelf.look · _) (Claim.store_performAll _ _ _)).trans ?_
  exact (within.look_run (by decide) _).trans saved

/-- What a failed claim leaves of the token: everything, unless the server granted an
empty token. Then the token in the store is gone. -/
structure Spares (device after : Device σ) (abort : Abort) : Prop where
  record : after.keeper.record = device.keeper.record
  loads : abort ≠ emptyToken → (Credentials.loadRecord.perform after.store).1 =
    (Credentials.loadRecord.perform device.store).1
  gone : abort = emptyToken → (Credentials.loadRecord.perform after.store).1 = .ok none

theorem SameToken.spares {abort : Abort} (same : SameToken before after)
    (other : abort ≠ emptyToken) : Spares before after abort :=
  ⟨same.record, fun _ => same.loads, fun equal => absurd equal other⟩

theorem spares_closeClaim {result : Except Abort Claim.Grant} {abort : Abort}
    (works : Works before.store) (initialized : before.keeper.phase ≠ .uninitialized)
    (other : ∀ given, result = .error given → given ≠ emptyToken)
    (failed : (before.closeClaim result).1 = .error abort) :
    Spares before (before.closeClaim result).2 abort := by
  cases result with
  | error given =>
      have told : (before.closeClaim (.error given)).1 = .error given ∧
          SameToken before (before.closeClaim (.error given)).2 := by
        cases given with
        | panic => exact ⟨rfl, .refl works⟩
        | failure given =>
            cases given with
            | refused status message => exact ⟨rfl, .of_same works rfl rfl rfl⟩
            | _ => exact ⟨rfl, .refl works⟩
      obtain rfl : given = abort := Except.error.inj (told.1.symm.trans failed)
      exact told.2.spares (other given rfl)
  | ok grant =>
      cases empty : grant.accessToken.isEmpty with
      | false =>
          have held := (holdGrant_ok empty initialized).symm.trans failed
          cases held
      | true =>
          have kept := holdGrant_of_empty empty before
          obtain rfl : Abort.failure emptyToken = abort :=
            Except.error.inj ((congrArg Prod.fst kept).symm.trans failed)
          show Spares before (before.holdGrant grant).2 emptyToken
          rw [kept]
          exact ⟨rfl, fun different => absurd rfl different,
            fun _ => loadRecord_keepGrant empty works⟩

theorem claimInTurn_error {code : String} {replies : List Claim.Reply} {abort : Abort}
    (works : Works before.store) (initialized : before.keeper.phase ≠ .uninitialized)
    (failed : (before.claimInTurn code replies).1 = some (.error abort)) :
    Spares before (before.claimInTurn code replies).2 abort := by
  have opening := SameToken.of_usesCredentials (usesCredentials_openClaim code before) works
  unfold claimInTurn at failed ⊢
  rcases begun : before.openClaim code with ⟨given | effort, opened⟩
  · rw [begun] at failed opening
    obtain rfl : Abort.failure given = abort := Except.error.inj (Option.some.inj failed)
    exact opening.spares (openClaim_error begun).ne_emptyToken
  · rw [begun] at failed opening
    dsimp only at failed opening ⊢
    have attempting := SameToken.of_usesCredentials
      (usesCredentials_attemptClaim replies effort opened) opening.works
    rcases attempted : opened.attemptClaim replies effort with ⟨_ | result, ended⟩
    · rw [attempted] at failed
      cases failed
    · rw [attempted] at failed attempting
      have same := opening.trans attempting
      have kept : ended.keeper.phase ≠ .uninitialized := by
        rw [same.phase]
        exact initialized
      have other : ∀ given, result = .error given → given ≠ emptyToken := by
        rintro given rfl
        have last : (opened.attemptClaim replies effort).1 = some (.error given) := by
          rw [attempted]
        exact (attemptClaim_error last).ne_emptyToken
      have closing := spares_closeClaim same.works kept other (Option.some.inj failed)
      exact ⟨closing.record.trans same.record, fun different =>
        (closing.loads different).trans same.loads, closing.gone⟩

/-- A claim that fails spares the token. -/
theorem authenticate_error {device : Device σ} {code : String} {replies : List Claim.Reply}
    {abort : Abort} (works : Works device.store)
    (failed : (device.authenticate code replies).1 = some (.error abort)) :
    Spares device (device.authenticate code replies).2 abort := by
  unfold authenticate at failed ⊢
  cases admitted : device.admitClaim code with
  | error given =>
      rw [admitted] at failed
      obtain rfl : Abort.failure given = abort := Except.error.inj (Option.some.inj failed)
      exact (SameToken.refl works).spares (admitClaim_error admitted)
  | ok =>
      rw [admitted] at failed
      exact claimInTurn_error works (initialized_of_admitClaim admitted) failed

def claimant : Device Memory :=
  let child := (Cell.childId.location, Octets.ofText "123e4567-e89b-12d3-a456-426614174000")
  let device : Device Memory :=
    create {} ⟨List.range 6 |>.map UInt8.ofNat, rfl⟩ 1000 [] { contents := ⟨[child]⟩ }
  (device.loadToken.2.storeToken "old-token-abcdef" 3600).2

def refusal : Claim.Reply := ⟨.ok ⟨403, Octets.ofText "no"⟩, 1000⟩

theorem authenticate_error_claimant :
    (claimant.authenticate "PAIR-1234" [refusal]).1 = some (.error (Failure.refused 403 "no")) ∧
      Spares claimant (claimant.authenticate "PAIR-1234" [refusal]).2 (Failure.refused 403 "no") := by
  have failed : (claimant.authenticate "PAIR-1234" [refusal]).1 =
      some (.error (Failure.refused 403 "no")) := by decide +kernel
  have works : claimant.store.Works := by
    constructor
    · decide +kernel
    · decide +kernel
  exact ⟨failed, authenticate_error works failed⟩

def emptyGrant : Claim.Reply :=
  ⟨.ok ⟨200, Octets.ofText
    "\x7b\"access_token\":\"\",\"refresh_token\":\"r\",\"expires_in\":300\x7d"⟩, 1000⟩

/-- The claim fails, and the token that was stored before is gone. -/
theorem loadRecord_authenticate_emptyGrant :
    (claimant.authenticate "PAIR-1234" [emptyGrant]).1 = some (.error emptyToken) ∧
      (Credentials.loadRecord.perform claimant.store).1 = .ok claimant.keeper.record ∧
      claimant.keeper.record ≠ none ∧
      (Credentials.loadRecord.perform
        (claimant.authenticate "PAIR-1234" [emptyGrant]).2.store).1 = .ok none := by
  decide +kernel

end Device

end DeviceAuth
