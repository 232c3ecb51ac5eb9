import DeviceAuth.Proofs.Device.Claim
import DeviceAuth.Proofs.Storage.Operations

/-! Commands that are rejected. A rejected command leaves the keeper and the stored tokens as
they were, and tells nobody anything, whatever the device is doing at the time. The exception is
a claim: the granted tokens are stored before it is found out that the token is empty. A command
either was rejected or broke on its way, and its failure tells which. -/

namespace DeviceAuth

theorem Keeper.beginRefresh_refused {settings : Settings} {keeper after : Keeper}
    {failure : Failure} (refused : keeper.beginRefresh settings = (.refused failure, after)) :
    after = keeper := by
  unfold beginRefresh takeFlag? at refused
  cases flag : keeper.inFlight with
  | true => simp [flag] at refused
  | false =>
      simp only [flag, Bool.false_eq_true, if_false] at refused
      rcases entered : ({ keeper with inFlight := true } : Keeper).enterRefresh settings with
        ⟨_ | _, entering⟩
      · rw [entered] at refused
        obtain ⟨rfl, _⟩ := enterRefresh_error entered
        obtain rfl := congrArg Prod.snd refused
        show { keeper with inFlight := false } = keeper
        rw [← flag]
      · rw [entered] at refused
        cases congrArg Prod.fst refused

namespace Device

/-! ## Commands -/

inductive Command where
  | load
  | store (token : String) (lifetime : UInt32)
  | schedule
  | allow (enabled : Bool)
  | refresh (sending : Except LinkFailure Unit)
  | answer (message : String)
  | clear
  | authenticate (code : String) (replies : List Claim.Reply)

variable {σ : Type}

def atOnce {ε α : Type} (abort : ε → Abort) (answer : Except ε α × Device σ) :
    Option (Except Abort Unit) × Device σ :=
  (some ((answer.1.map fun _ => ()).mapError abort), answer.2)

def refreshWith (sending : Except LinkFailure Unit) (device : Device σ) :
    Except Abort Unit × Device σ :=
  match device.openRefresh with
  | (.finish result, device) => (result, device)
  | (.send generation _, device) => device.closeRefresh generation sending

def operate [Backend σ] (device : Device σ) :
    Command → Option (Except Abort Unit) × Device σ
  | .load => atOnce id device.loadToken
  | .store token lifetime => atOnce id (device.storeToken token lifetime)
  | .schedule => atOnce .panic device.schedule
  | .allow enabled => atOnce .panic (device.setAutoRefresh enabled)
  | .refresh sending => atOnce id (device.refreshWith sending)
  | .answer message => atOnce id (device.takeAnswer message)
  | .clear => atOnce .failure device.clearToken
  | .authenticate code replies => device.authenticate code replies

theorem atOnce_error {ε α : Type} {abort : ε → Abort} {answer : Except ε α × Device σ}
    {told : Abort} (failed : (atOnce abort answer).1 = some (.error told)) :
    ∃ given, answer.1 = .error given ∧ abort given = told := by
  rcases answer with ⟨given | value, device⟩
  · exact ⟨given, rfl, Except.error.inj (Option.some.inj failed)⟩
  · cases Option.some.inj failed

theorem error_of_atOnce {α : Type} {answer : Except Abort α × Device σ} {told : Abort}
    (failed : (atOnce id answer).1 = some (.error told)) : answer.1 = .error told := by
  obtain ⟨given, equal, rfl⟩ := atOnce_error failed
  exact equal

theorem not_failure_of_atOnce {α : Type} {answer : Except Panic α × Device σ}
    {failure : Failure} : (atOnce .panic answer).1 ≠ some (.error failure) := by
  intro failed
  obtain ⟨_, _, same⟩ := atOnce_error failed
  cases same

namespace Command

/-- The failures with which a command is rejected: it is asked for what the device cannot
do at this time, or for what makes no sense. -/
inductive Rejects : Command → Failure → Prop where
  | uninitialized (command : Command) : Rejects command Keeper.notInitialized
  | unreadable (failure : StoreFailure) : Rejects .load (.store failure)
  | emptyToken (command : Command) : Rejects command emptyToken
  | noAnswer {message : String} {failure : Failure}
      (unread : Refresh.Answer.read message = .error failure) : Rejects (.answer message) failure
  | badCode {code : String} {failure : FieldFailure}
      (refused : PairingCode.check code = .error failure) (replies : List Claim.Reply) :
      Rejects (.authenticate code replies) (.field failure)
  | noChild (command : Command) : Rejects command (.state "no child_id provisioned")
  | noToken (command : Command) : Rejects command (.state "no token to refresh")

/-- The failures that are no rejection: the command was let in, and something went wrong on
its way. -/
inductive Breaks : Command → Failure → Prop where
  | link (command : Command) (failure : LinkFailure) : Breaks command (.link failure)
  | refused (command : Command) (status : Nat) (message : String) :
      Breaks command (.refused status message)
  | unstored {command : Command} (notLoad : command ≠ .load) (failure : StoreFailure) :
      Breaks command (.store failure)
  | noToken (command : Command) :
      Breaks command (.state "refresh answered but no token held")

theorem Breaks.of_state {command : Command} {text : String}
    (breaks : command.Breaks (.state text)) : text = "refresh answered but no token held" := by
  cases breaks
  rfl

theorem Rejects.not_breaks {command : Command} {failure : Failure}
    (rejects : command.Rejects failure) : ¬ command.Breaks failure := by
  intro breaks
  cases rejects with
  | uninitialized => exact absurd breaks.of_state (by decide)
  | emptyToken => exact absurd breaks.of_state (by decide)
  | noChild => exact absurd breaks.of_state (by decide)
  | noToken => exact absurd breaks.of_state (by decide)
  | unreadable failure =>
      cases breaks with
      | unstored notLoad => exact notLoad rfl
  | noAnswer unread =>
      unfold Refresh.Answer.read at unread
      split at unread
      next => cases unread
      next =>
        cases unread
        cases breaks
  | badCode => cases breaks

end Command

/-! ## What a rejected command leaves as it was -/

variable [Backend σ] [Honest σ] {before middle after : Device σ}

/-- The keeper is as it was: what it holds, its phase, its count of failures and their backoff,
its number of the refresh, its timer, its watchdog, its flag, its tasks and all that was told. So
is every value that is stored with the tokens, but for those in the cells that are listed. -/
structure Unchanged (written : List Cell) (before after : Device σ) : Prop where
  keeper : after.keeper = before.keeper
  tokens : ∀ location, location.space = Cell.tokens → location ∉ written.map Cell.location →
    (Honest.shelf after.store).look location = (Honest.shelf before.store).look location

theorem UsesCredentials.unchanged (uses : UsesCredentials before after) (written : List Cell) :
    Unchanged written before after := by
  obtain ⟨α, program, within, store⟩ := uses.store
  refine ⟨uses.keeper, fun location inside _ => ?_⟩
  rw [store]
  apply Honest.look_run (within.leavesAlone _) before.store
  rw [inside]
  decide

theorem Unchanged.trans {written : List Cell} (first : Unchanged written before middle)
    (second : Unchanged written middle after) : Unchanged written before after where
  keeper := second.keeper.trans first.keeper
  tokens location inside other :=
    (second.tokens location inside other).trans (first.tokens location inside other)

theorem Unchanged.refl (written : List Cell) (device : Device σ) :
    Unchanged written device device :=
  ⟨rfl, fun _ _ _ => rfl⟩

/-! ### Loading -/

omit [Backend σ] [Honest σ] in
theorem thenSchedule_failure {answer : Except Failure Bool × Device σ} {failure : Failure}
    (failed : (thenSchedule answer).1 = .error failure) :
    answer.1 = .error failure ∧ (thenSchedule answer).2 = answer.2 := by
  rcases answer with ⟨given | _ | _, device⟩
  · obtain rfl := Abort.failure.inj (Except.error.inj failed)
    exact ⟨rfl, rfl⟩
  · cases failed
  · rcases scheduled : device.schedule with ⟨_ | _, after⟩
    · simp [thenSchedule, scheduled] at failed
    · simp [thenSchedule, scheduled] at failed

theorem unchanged_load {failure : Failure} (device : Device σ)
    (failed : device.loadToken.1 = .error failure) :
    Unchanged [] device device.loadToken.2 := by
  obtain ⟨unread, same⟩ := thenSchedule_failure failed
  rw [loadToken, same]
  by_cases uninitialized : device.keeper.phase = .uninitialized
  · rcases performed : Credentials.loadRecord.perform device.store with ⟨given | stored, store⟩
    · rw [takeStored_of_unread uninitialized performed]
      refine ⟨rfl, fun location _ _ => ?_⟩
      have kept := Honest.look_run (Credentials.leavesAlone_loadRecord location) device.store
      exact (congrArg (fun answer => (Honest.shelf answer.2).look location) performed).symm.trans
        kept
    · have read : device.perform Credentials.loadRecord =
          (.ok stored, { device with store := store }) := by
        simp only [perform, performed]
      simp [takeStored, uninitialized, read] at unread
  · rw [takeStored_of_initialized uninitialized] at unread
    cases unread

/-! ### Holding -/

omit [Honest σ] in
theorem usesCredentials_storeToken {token : String} {lifetime : UInt32} {abort : Abort}
    (device : Device σ) (failed : (device.storeToken token lifetime).1 = .error abort) :
    UsesCredentials device (device.storeToken token lifetime).2 := by
  cases given : token.isEmpty with
  | true =>
      rw [storeToken_empty given]
      exact .of_same rfl rfl
  | false =>
      by_cases uninitialized : device.keeper.phase = .uninitialized
      · have held := holdToken_of_uninitialized lifetime given uninitialized
        have stored : (device.storeToken token lifetime).2 =
            (device.holdToken token lifetime).2 := by
          simp [storeToken, holdToken, given, uninitialized, run]
        rw [stored, held]
        exact .of_run (staysWithin_tokenIds device.address) rfl rfl
      · obtain ⟨schedule, stored⟩ := storeToken_ok given lifetime uninitialized
        rw [stored] at failed
        cases failed

/-! ### Refreshing -/

omit [Backend σ] [Honest σ] in
theorem closeRefresh_failure {generation : UInt64} {sending : Except LinkFailure Unit}
    {failure : Failure} {device : Device σ}
    (failed : (device.closeRefresh generation sending).1 = .error failure) :
    ∃ lost, failure = .link lost := by
  unfold closeRefresh at failed
  split at failed
  next => cases failed
  next lost =>
    split at failed
    next => exact ⟨lost, (Abort.failure.inj (Except.error.inj failed)).symm⟩
    next => cases failed

theorem unchanged_or_breaks_refresh {sending : Except LinkFailure Unit} {failure : Failure}
    (device : Device σ) (failed : (device.refreshWith sending).1 = .error failure) :
    Unchanged [] device (device.refreshWith sending).2 ∨
      (Command.refresh sending).Breaks failure := by
  unfold refreshWith openRefresh keep at failed ⊢
  rcases begun : device.keeper.beginRefresh device.settings with
    ⟨_ | given | ⟨generation, proof⟩, keeper⟩
  case alreadyUnderWay =>
    rw [begun] at failed
    cases failed
  case refused =>
    rw [Keeper.beginRefresh_refused begun]
    exact .inl (.refl [] device)
  case send =>
    right
    rw [begun] at failed
    dsimp only at failed
    have lost : ∃ lost, failure = .link lost := by
      by_cases connected : keeper.connected
      · simp only [connected, if_true] at failed
        exact closeRefresh_failure failed
      · simp only [connected] at failed
        exact closeRefresh_failure failed
    obtain ⟨lost, rfl⟩ := lost
    exact .link _ lost

/-! ### Answers -/

omit [Honest σ] in
theorem breaks_applyAnswer {message : String} {answer : Refresh.Answer} {failure : Failure}
    {device : Device σ} (found : Refresh.Answer.read message = .ok answer)
    (initialized : device.keeper.phase ≠ .uninitialized)
    (failed : (device.applyAnswer message).1 = .error failure) :
    (Command.answer message).Breaks failure := by
  unfold applyAnswer at failed
  rw [found] at failed
  simp only [initialized, if_false] at failed
  split at failed
  next => exact Except.error.inj failed ▸ .noToken _
  next => cases failed
  next =>
    dsimp only at failed
    rcases performed : ((device.onKeeper Keeper.takeAnswer).onKeeper Keeper.drop).perform
      Credentials.clearTokens with ⟨given | _, cleared⟩
    · rw [performed] at failed
      cases failed
      exact .unstored (by nofun) given
    · rw [performed] at failed
      cases failed

theorem unchanged_or_breaks_answer {message : String} {failure : Failure} (device : Device σ)
    (failed : (device.takeAnswer message).1 = .error failure) :
    Unchanged [] device (device.takeAnswer message).2 ∨
      (Command.answer message).Breaks failure := by
  obtain ⟨refused, same⟩ := thenSchedule_failure failed
  rw [takeAnswer, same]
  rcases device.applyAnswer_error_or_read message with
    ⟨given, kept⟩ | ⟨initialized, answer, found⟩
  · rw [kept]
    exact .inl (.refl [] device)
  · exact .inr (breaks_applyAnswer found initialized refused)

omit [Honest σ] in
theorem breaks_clear {failure : Failure} {device : Device σ}
    (failed : device.clearToken.1 = .error failure) : Command.clear.Breaks failure := by
  unfold clearToken at failed
  rcases performed : (device.onKeeper Keeper.wipe).perform Credentials.clearTokens with
    ⟨given | _, cleared⟩
  · rw [performed] at failed
    cases failed
    exact .unstored (by nofun) given
  · rw [performed] at failed
    cases failed

/-! ### Claims -/

/-- The cells that a claim may have written before it was rejected: those of the tokens that were
granted, if the token to be held is empty. -/
def Command.written : Command → Failure → List Cell
  | .authenticate _ _, failure =>
      if failure = Device.emptyToken then [.accessToken, .refreshToken] else []
  | _, _ => []

theorem unchanged_keepGrant (grant : Claim.Grant) (device : Device σ) :
    Unchanged [.accessToken, .refreshToken] device (device.keepGrant grant).2 := by
  refine ⟨rfl, fun location inside other => ?_⟩
  simp only [List.map_cons, List.map_nil, List.mem_cons, List.not_mem_nil, or_false,
    not_or] at other
  -- Whatever comes after the tokens belongs to the credentials.
  have rest : (Claim.Grant.performAll (grant.artifacts device.settings).tail).LeavesAlone
      location := by
    apply (Claim.staysWithin_performAll
      (Claim.staysWithin_artifacts device.settings grant)).leavesAlone
    rw [inside]
    decide
  have saved := Honest.look_run (Credentials.leavesAlone_saveTokens other.1 other.2
    grant.accessToken grant.refreshToken) device.store
  show (Honest.shelf ((grant.keep device.settings).perform device.store).2).look location = _
  refine (congrArg (fun store => (Honest.shelf store).look location)
    (Claim.store_performAll _ _ device.store)).trans ?_
  exact (Honest.look_run rest _).trans saved

theorem unchanged_or_breaks_closeClaim {result : Except Abort Claim.Grant} {failure : Failure}
    {code : String} {replies : List Claim.Reply} (device : Device σ)
    (initialized : device.keeper.phase ≠ .uninitialized)
    (failed : (device.closeClaim result).1 = .error failure) :
    Unchanged ((Command.authenticate code replies).written failure) device
        (device.closeClaim result).2 ∨
      (Command.authenticate code replies).Breaks failure := by
  cases result with
  | error given =>
      cases given with
      | panic => exact .inl (.refl _ device)
      | failure given =>
          cases given with
          | refused status message =>
              obtain rfl := Abort.failure.inj (Except.error.inj failed)
              exact .inr (.refused _ status message)
          | _ => exact .inl (.refl _ device)
  | ok grant =>
      left
      cases empty : grant.accessToken.isEmpty with
      | false => cases (holdGrant_ok empty initialized).symm.trans failed
      | true =>
          have kept : device.closeClaim (.ok grant) =
              (.error emptyToken, (device.keepGrant grant).2) := holdGrant_of_empty empty device
          rw [kept] at failed ⊢
          obtain rfl := Abort.failure.inj (Except.error.inj failed)
          exact unchanged_keepGrant grant device

theorem unchanged_or_breaks_claimInTurn {code : String} {replies : List Claim.Reply}
    {failure : Failure} (device : Device σ) (initialized : device.keeper.phase ≠ .uninitialized)
    (failed : (device.claimInTurn code replies).1 = some (.error failure)) :
    Unchanged ((Command.authenticate code replies).written failure) device
        (device.claimInTurn code replies).2 ∨
      (Command.authenticate code replies).Breaks failure := by
  have opening := usesCredentials_openClaim code device
  unfold claimInTurn at failed ⊢
  rcases begun : device.openClaim code with ⟨given | effort, opened⟩
  · rw [begun] at opening
    exact .inl (opening.unchanged _)
  · rw [begun] at opening failed
    dsimp only at opening failed ⊢
    have attempting := opening.trans (usesCredentials_attemptClaim replies effort opened)
    rcases attempted : opened.attemptClaim replies effort with ⟨_ | result, ended⟩
    · rw [attempted] at failed
      cases failed
    · rw [attempted] at attempting failed
      have still : ended.keeper.phase ≠ .uninitialized := by
        rw [attempting.keeper]
        exact initialized
      rcases unchanged_or_breaks_closeClaim ended still (Option.some.inj failed) with
        closed | breaks
      · exact .inl ((attempting.unchanged _).trans closed)
      · exact .inr breaks

theorem unchanged_or_breaks_authenticate {code : String} {replies : List Claim.Reply}
    {failure : Failure} (device : Device σ)
    (failed : (device.authenticate code replies).1 = some (.error failure)) :
    Unchanged ((Command.authenticate code replies).written failure) device
        (device.authenticate code replies).2 ∨
      (Command.authenticate code replies).Breaks failure := by
  unfold authenticate at failed ⊢
  cases admitted : device.admitClaim code with
  | error given => exact .inl (.refl _ device)
  | ok =>
      rw [admitted] at failed
      exact unchanged_or_breaks_claimInTurn device (initialized_of_admitClaim admitted) failed

/-! ## Rejected commands -/

theorem unchanged_or_breaks {command : Command} {failure : Failure} (device : Device σ)
    (failed : (device.operate command).1 = some (.error failure)) :
    Unchanged (command.written failure) device (device.operate command).2 ∨
      command.Breaks failure := by
  cases command with
  | load => exact .inl (unchanged_load device (error_of_atOnce failed))
  | store token lifetime =>
      exact .inl ((usesCredentials_storeToken device (error_of_atOnce failed)).unchanged [])
  | schedule => exact absurd failed not_failure_of_atOnce
  | allow enabled => exact absurd failed not_failure_of_atOnce
  | refresh sending => exact unchanged_or_breaks_refresh device (error_of_atOnce failed)
  | answer message => exact unchanged_or_breaks_answer device (error_of_atOnce failed)
  | clear =>
      obtain ⟨given, refused, same⟩ := atOnce_error failed
      obtain rfl := Abort.failure.inj same
      exact .inr (breaks_clear refused)
  | authenticate code replies => exact unchanged_or_breaks_authenticate device failed

/-- Whatever the device is doing, a command that is rejected leaves its keeper and its stored
tokens as they were. A claim that is rejected for an empty token has overwritten the two tokens
that were granted. -/
theorem unchanged_of_rejects (device : Device σ) (command : Command) {failure : Failure}
    (failed : (device.operate command).1 = some (.error failure))
    (rejects : command.Rejects failure) :
    Unchanged (command.written failure) device (device.operate command).2 :=
  (unchanged_or_breaks device failed).resolve_right rejects.not_breaks

def childless : Device Memory :=
  ((claimant.perform Cell.childId.clear).2.onKeeper Keeper.connect).openRefresh.2

theorem unchanged_authenticate_childless :
    childless.keeper.inFlight = true ∧
      (childless.operate (.authenticate "PAIR-1234" [])).1 =
        some (.error (Failure.state "no child_id provisioned")) ∧
      Unchanged [] childless (childless.operate (.authenticate "PAIR-1234" [])).2 := by
  have failed : (childless.operate (.authenticate "PAIR-1234" [])).1 =
      some (.error (Failure.state "no child_id provisioned")) := by decide +kernel
  exact ⟨by decide +kernel, failed, unchanged_of_rejects childless _ failed (.noChild _)⟩

/-- The claim is rejected for the empty token, and has overwritten the one that was stored. -/
theorem changed_authenticate_emptyGrant :
    (claimant.operate (.authenticate "PAIR-1234" [emptyGrant])).1 = some (.error emptyToken) ∧
      (Command.authenticate "PAIR-1234" [emptyGrant]).Rejects emptyToken ∧
      ¬ Unchanged [] claimant (claimant.operate (.authenticate "PAIR-1234" [emptyGrant])).2 := by
  refine ⟨by decide +kernel, .emptyToken _, fun unchanged => ?_⟩
  have before : (Honest.shelf claimant.store).look Cell.accessToken.location =
      some (Octets.ofText "old-token-abcdef") := by decide +kernel
  have after : (Honest.shelf
      (claimant.operate (.authenticate "PAIR-1234" [emptyGrant])).2.store).look
        Cell.accessToken.location = some [] := by decide +kernel
  have same := unchanged.tokens Cell.accessToken.location rfl List.not_mem_nil
  rw [before, after] at same
  cases same

end Device

end DeviceAuth
