import DeviceAuth.Proofs.Activity.Steps

/-! Where a device stands with its token. Most of a keeper is bookkeeping: flags, numbers
and tasks. What matters to whoever uses the token is the phase and the record, and these
change in a few ways only, together with the store and the clock. Here these ways are
listed, and every move is shown to go one of them. -/

namespace DeviceAuth

namespace Keeper

def verdict (settings : Settings) (now : UInt32) : Option TokenRecord → Phase
  | some record =>
      if record.isValidAt now settings.validityMargin.secondsWord then .valid
      else .invalidOrMissing
  | none => .invalidOrMissing

theorem verdict_eq_valid_iff {settings : Settings} {now : UInt32}
    {record : Option TokenRecord} : verdict settings now record = .valid ↔
      ∃ held, record = some held ∧
        held.isValidAt now settings.validityMargin.secondsWord = true := by
  cases record with
  | none => simp [verdict]
  | some held => simp [verdict]

theorem verdict_cases (settings : Settings) (now : UInt32) (record : Option TokenRecord) :
    verdict settings now record = .valid ∨
      verdict settings now record = .invalidOrMissing := by
  cases record with
  | none => exact .inr rfl
  | some held =>
      simp only [verdict]
      split
      · exact .inl rfl
      · exact .inr rfl

end Keeper

structure Standing (σ : Type) where
  phase : Phase
  record : Option TokenRecord
  now : UInt32
  store : σ

namespace Standing

variable {σ : Type}

def judged (settings : Settings) (standing : Standing σ) : Standing σ :=
  { standing with phase := Keeper.verdict settings standing.now standing.record }

def holding (settings : Settings) (record : TokenRecord) (store : σ) (standing : Standing σ) :
    Standing σ :=
  { standing with record := some record, store := store }.judged settings

section Fields

variable (settings : Settings) (record : TokenRecord) (store : σ) (standing : Standing σ)

@[simp] theorem phase_judged : (standing.judged settings).phase =
    Keeper.verdict settings standing.now standing.record := rfl

@[simp] theorem now_judged : (standing.judged settings).now = standing.now := rfl

@[simp] theorem phase_holding : (standing.holding settings record store).phase =
    Keeper.verdict settings standing.now (some record) := rfl

@[simp] theorem record_holding :
    (standing.holding settings record store).record = some record := rfl

@[simp] theorem store_holding : (standing.holding settings record store).store = store := rfl

end Fields

def newRecord [Backend σ] (address : Address) (token : String) (lifetime : UInt32)
    (standing : Standing σ) : TokenRecord :=
  let ids := ((Device.tokenIds address).run standing.store).1
  ⟨token, expiryAfter standing.now lifetime, ids.1, ids.2⟩

/-- The ways in which a move can change where a device stands. -/
inductive Passes [Backend σ] (settings : Settings) (address : Address) (before : Standing σ) :
    Move σ → Standing σ → Prop where
  | same {move : Move σ} : Passes settings address before move before
  | surround (now : UInt32) (random : Octets) (store : σ) :
      Passes settings address before (.surroundings now random store)
        { before with now := now, store := store }
  | judge {move : Move σ} (refreshing : before.phase = .refreshInProgress) :
      Passes settings address before move (before.judged settings)
  | giveUp {move : Move σ} (refreshing : before.phase = .refreshInProgress) :
      Passes settings address before move
        { before with phase := .invalidOrMissing, record := none }
  | request {call : Nat} (held : before.record ≠ none)
      (initialized : before.phase ≠ .uninitialized) :
      Passes settings address before (.enter call) { before with phase := .refreshInProgress }
  | unread {failure : StoreFailure} {store : σ} (uninitialized : before.phase = .uninitialized)
      (read : Credentials.loadRecord.perform before.store = (.error failure, store)) :
      Passes settings address before .load { before with store := store }
  | beginEmpty {store : σ} (uninitialized : before.phase = .uninitialized)
      (read : Credentials.loadRecord.perform before.store = (.ok none, store)) :
      Passes settings address before .load
        { before with phase := .initialized, store := store }
  | beginWith {record : TokenRecord} {store : σ} (uninitialized : before.phase = .uninitialized)
      (read : Credentials.loadRecord.perform before.store = (.ok (some record), store)) :
      Passes settings address before .load (before.holding settings record store)
  | refuse {token : String} {lifetime : UInt32} (given : token.isEmpty = false)
      (uninitialized : before.phase = .uninitialized) :
      Passes settings address before (.hold token lifetime)
        { before with store := ((Device.tokenIds address).run before.store).2 }
  | hold {token : String} {lifetime : UInt32} (given : token.isEmpty = false)
      (initialized : before.phase ≠ .uninitialized) :
      Passes settings address before (.hold token lifetime)
        (before.holding settings (before.newRecord address token lifetime)
          ((Credentials.saveRecord (before.newRecord address token lifetime)).perform
            ((Device.tokenIds address).run before.store).2).2)
  | renew {message : String} {lifetime : UInt32} {token : Option String} {record : TokenRecord}
      (read : Refresh.Answer.read message = .ok (.accepted lifetime token))
      (initialized : before.phase ≠ .uninitialized) (held : before.record = some record) :
      Passes settings address before (.answer message)
        (before.holding settings (record.renewed before.now lifetime token)
          ((Credentials.saveRecord (record.renewed before.now lifetime token)).perform
            before.store).2)
  | miss {message : String} (initialized : before.phase ≠ .uninitialized)
      (missing : before.record = none) :
      Passes settings address before (.answer message)
        { before with phase := .invalidOrMissing }
  | reject {message reason : String}
      (read : Refresh.Answer.read message = .ok (.rejected reason))
      (initialized : before.phase ≠ .uninitialized) :
      Passes settings address before (.answer message)
        { before with
          phase := .invalidOrMissing
          record := none
          store := (Credentials.clearTokens.perform before.store).2 }
  | clear :
      Passes settings address before .clear
        { before with
          phase := if before.phase = .uninitialized then .uninitialized else .invalidOrMissing
          record := none
          store := (Credentials.clearTokens.perform before.store).2 }
  | shutdown :
      Passes settings address before .shutdown
        { before with phase := .uninitialized, record := none }

end Standing

def Device.standing {σ : Type} (device : Device σ) : Standing σ :=
  ⟨device.keeper.phase, device.keeper.record, device.now, device.store⟩

namespace Activity

open Standing (Passes)

variable {σ : Type} [Backend σ] {activity : Activity σ}

def standing (activity : Activity σ) : Standing σ := activity.device.standing

def Goes (activity : Activity σ) (move : Move σ) (after : Device σ) : Prop :=
  Passes activity.device.settings activity.device.address activity.standing move after.standing

theorem goes_of_same {move : Move σ} {after : Device σ}
    (same : after.standing = activity.standing) : activity.Goes move after := by
  unfold Goes
  rw [same]
  exact .same

theorem goes_failRefresh (move : Move σ) (generation : UInt64) (reason : String)
    (device : Device σ) (same : device.standing = activity.standing)
    (settings : device.settings = activity.device.settings) :
    activity.Goes move (device.failRefresh generation reason).2 := by
  by_cases awaited : device.keeper.IsAwaited generation
  case neg =>
    apply goes_of_same
    rw [Device.failRefresh_of_not awaited, same]
  case pos =>
    have refreshing : activity.standing.phase = .refreshInProgress := by
      rw [← same]
      exact awaited.2
    have settled : ∀ after : Device σ, after.keeper.record = device.keeper.record →
        after.now = device.now → after.store = device.store →
        after.keeper.phase = Keeper.verdict device.settings device.now device.keeper.record →
        activity.Goes move after := by
      intro after record now store phase
      have equal : after.standing = activity.standing.judged activity.device.settings := by
        rw [← same, ← settings]
        simp only [Device.standing, Standing.judged, record, now, store, phase]
      unfold Goes
      rw [equal]
      exact .judge refreshing
    unfold Device.failRefresh
    have fails :=
      Keeper.failRefresh_failsTo device.settings device.now reason device.random awaited
    generalize device.keeper.failRefresh device.settings device.now generation reason
      device.random = answer at fails ⊢
    cases fails with
    | exhausted =>
      have gone : Passes activity.device.settings activity.device.address activity.standing move
          { activity.standing with phase := .invalidOrMissing, record := none } :=
        .giveUp refreshing
      rw [← same] at gone
      unfold Goes
      rw [← same]
      exact gone
    | retried => exact settled _ rfl rfl rfl rfl
    | endless => exact settled _ rfl rfl rfl rfl
    | full => exact goes_of_same same

theorem goes_abandon (move : Move σ) (generation : UInt64) :
    activity.Goes move (activity.device.abandonRefresh generation) := by
  by_cases awaited : activity.keeper.IsAwaited generation
  case neg =>
    apply goes_of_same
    rw [Device.abandonRefresh_of_not awaited]
    rfl
  case pos =>
    have released : activity.device.keeper.releaseFlag.IsAwaited generation := awaited
    have settled : (activity.device.abandonRefresh generation).standing =
        activity.standing.judged activity.device.settings := by
      simp only [Device.abandonRefresh, Device.onKeeper, Keeper.abandonRefresh]
      rw [Keeper.settleAbandoned, if_pos released]
      rfl
    unfold Goes
    rw [settled]
    exact .judge awaited.2

theorem goes_load : activity.Goes .load activity.device.takeStored.2 := by
  by_cases uninitialized : activity.device.keeper.phase = .uninitialized
  case neg =>
    apply goes_of_same
    rw [Device.takeStored_of_initialized uninitialized]
    rfl
  case pos =>
    unfold Goes
    cases performed : Credentials.loadRecord.perform activity.device.store with
    | mk result store =>
        cases result with
        | error failure =>
            rw [Device.takeStored_of_unread uninitialized performed]
            exact .unread uninitialized performed
        | ok stored =>
            rw [Device.takeStored_of_read uninitialized performed]
            cases stored with
            | none => exact .beginEmpty uninitialized performed
            | some record => exact .beginWith uninitialized performed

theorem goes_hold (token : String) (lifetime : UInt32) :
    activity.Goes (.hold token lifetime) (activity.device.holdToken token lifetime).2 := by
  cases given : token.isEmpty with
  | true =>
      apply goes_of_same
      simp only [Device.holdToken, given, if_true]
      rfl
  | false =>
      unfold Goes
      by_cases uninitialized : activity.device.keeper.phase = .uninitialized
      · rw [Device.holdToken_of_uninitialized lifetime given uninitialized]
        exact .refuse given uninitialized
      · rw [Device.holdToken_stored lifetime given uninitialized]
        exact .hold given uninitialized

theorem goes_answer (message : String) :
    activity.Goes (.answer message) (activity.device.applyAnswer message).2 := by
  rcases activity.device.applyAnswer_error_or_read message with
    ⟨failure, same⟩ | ⟨initialized, answer, read⟩
  · apply goes_of_same
    rw [same]
    rfl
  · unfold Goes
    cases answer with
    | accepted lifetime token =>
        cases held : activity.device.keeper.record with
        | some record =>
            rw [Device.applyAnswer_renewed read initialized held]
            exact .renew read initialized held
        | none =>
            rcases Device.applyAnswer_accepted read initialized with
              ⟨_, _, applied⟩ | ⟨_, _, _, found, _⟩
            · rw [applied]
              exact .miss initialized held
            · rw [held] at found
              cases found
    | rejected reason =>
        rw [Device.applyAnswer_cleared read initialized]
        exact .reject read initialized

theorem goes_enter (call : Nat) :
    activity.Goes (.enter call) (activity.enter call).device := by
  rcases activity.enter_cases call with ⟨refused, _⟩ | ⟨_, _, keeper, request, entered⟩
  · rw [refused]
    exact .same
  · obtain ⟨record, held, initialized, _, _, rfl⟩ := Keeper.enterRefresh_ok request
    rw [entered]
    have present : activity.standing.record ≠ none := by
      intro missing
      rw [show activity.standing.record = activity.keeper.record from rfl, held] at missing
      cases missing
    exact Passes.request present initialized

omit [Backend σ] in
theorem standing_schedule (device : Device σ) : device.schedule.2.standing = device.standing := by
  have phase := (Keeper.schedule_kept device.settings device.now device.keeper).2.2
  have record := Keeper.record_schedule device.settings device.now device.keeper
  simp only [Device.standing, Device.schedule, Device.keep, phase, record]

omit [Backend σ] in
theorem standing_takeFlag : activity.takeFlag.standing = activity.standing := by
  rcases activity.takeFlag_cases with ⟨_, same⟩ | ⟨taken, free, began⟩
  · rw [same]
  · obtain ⟨_, rfl⟩ := Keeper.takeFlag?_some free
    rw [began]
    rfl

/-- Every move goes one of the ways in which the standing of a device changes. -/
theorem step_goes (move : Move σ) (activity : Activity σ) :
    activity.Goes move (activity.step move).device := by
  cases move with
  | surroundings now random store => exact .surround now random store
  | connect => exact .same
  | load =>
      simp only [step, device_goOn]
      exact goes_load
  | hold token lifetime =>
      simp only [step, device_goOn]
      exact goes_hold token lifetime
  | schedule => exact goes_of_same (standing_schedule activity.device)
  | allow enabled => exact .same
  | answer message =>
      simp only [step, device_goOn]
      exact goes_answer message
  | clear => exact .clear
  | shutdown => exact .shutdown
  | confirm => exact .same
  | deny message => exact .same
  | refresh => exact goes_of_same standing_takeFlag
  | begin task =>
      simp only [step]
      split
      next =>
        apply goes_of_same
        exact standing_takeFlag
      next => exact .same
  | wake task =>
      simp only [step, onDevice, Device.wakeTask]
      split
      next => exact .same
      next generation limit armed =>
        exact goes_failRefresh _ generation Device.noAnswer _ rfl rfl
      next => exact .same
  | expire task =>
      simp only [step]
      split
      next => exact .same
      next => exact .same
  | enter call =>
      simp only [step]
      split
      next => exact goes_enter call
      next => exact .same
  | release call =>
      simp only [step]
      split
      next => exact .same
      next => exact .same
  | sent call result =>
      simp only [step]
      split
      next => exact .same
      next => exact .same
      next => exact .same
  | report call =>
      simp only [step]
      split
      next generation reason present =>
        exact goes_failRefresh _ generation reason _ rfl rfl
      next => exact .same
  | drop call lockFree =>
      simp only [step]
      split
      next => exact .same
      next generation present =>
        split
        next => exact goes_abandon _ generation
        next => exact .same
      next => exact .same
      next => exact .same
  | arrange call =>
      simp only [step]
      split
      next => exact goes_of_same (standing_schedule activity.device)
      next => exact .same

end Activity

end DeviceAuth
