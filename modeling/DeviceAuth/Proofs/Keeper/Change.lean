import DeviceAuth.Proofs.Keeper.Watchdog

/-! What can happen to a keeper. A refresh can fail, the flag can be taken, and
everything else that a device does to its keeper is one of the changes below. What all
of this preserves holds of a keeper at any time. -/

namespace DeviceAuth

namespace Keeper

variable {keeper after : Keeper} {settings : Settings}

/-! ## The cases of an operation -/

theorem isTokenValid_of_held {held : TokenRecord} (settings : Settings) (now : UInt32)
    (same : keeper.record = some held) : keeper.isTokenValid settings now =
      held.isValidAt now settings.validityMargin.secondsWord := by
  rw [isTokenValid, same]

theorem dueMoment_eq_error_iff {expiry buffer now : UInt32} {panic : Panic} :
    dueMoment expiry buffer now = .error panic ↔
      panic = .subtraction ∧ expiry.toNat < buffer.toNat + now.toNat := by
  rw [dueMoment]
  cases first : Word.subtract expiry buffer with
  | error other =>
      obtain ⟨rfl, less⟩ := Word.subtract_eq_error_iff.mp first
      simp only [bind, Except.bind, Except.error.injEq, eq_comm, iff_self_and]
      omega
  | ok moment =>
      have sum := Word.subtract_eq_ok_iff.mp first
      cases second : Word.subtract moment now with
      | error other =>
          obtain ⟨rfl, less⟩ := Word.subtract_eq_error_iff.mp second
          simp only [bind, Except.bind, second, Except.error.injEq, eq_comm, iff_self_and]
          omega
      | ok seconds =>
          have rest := Word.subtract_eq_ok_iff.mp second
          simp only [bind, Except.bind, second, pure, Except.pure, reduceCtorEq, false_iff]
          omega

inductive SchedulesTo (keeper : Keeper) : Except Panic Schedule × Keeper → Prop
  | disabled (off : keeper.autoRefresh = false) :
      SchedulesTo keeper (.ok .disabled, keeper.cancelTimer)
  | noToken (none : keeper.record = none) : SchedulesTo keeper (.ok .noToken, keeper.cancelTimer)
  | immediate : SchedulesTo keeper (.ok .immediate, keeper.cancelTimer.launchRefresh)
  | armed (moment : UInt32) (delay : Span) :
      SchedulesTo keeper (.ok (.armed moment), keeper.cancelTimer.armTimer delay)
  | passed : SchedulesTo keeper (.error .subtraction, keeper.cancelTimer)

theorem schedule_schedulesTo (settings : Settings) (now : UInt32) (keeper : Keeper) :
    keeper.SchedulesTo (keeper.schedule settings now) := by
  unfold schedule
  dsimp only
  split
  next off => exact .disabled ((Bool.not_eq_true' _).mp off)
  next =>
    split
    next none => exact .noToken none
    next =>
      split
      next => exact .immediate
      next =>
        split
        next => exact .armed _ _
        next passed =>
          rw [(dueMoment_eq_error_iff.mp passed).1]
          exact .passed

theorem schedule_keeps (settings : Settings) (now : UInt32) (keeper : Keeper) :
    ∃ timer tasks nextTask, (keeper.schedule settings now).2 =
      { keeper with timer := timer, tasks := tasks, nextTask := nextTask } := by
  have schedules := schedule_schedulesTo settings now keeper
  generalize keeper.schedule settings now = answer at schedules ⊢
  cases schedules
  all_goals exact ⟨_, _, _, rfl⟩

theorem schedule_kept (settings : Settings) (now : UInt32) (keeper : Keeper) :
    (keeper.schedule settings now).2.inFlight = keeper.inFlight ∧
      (keeper.schedule settings now).2.generation = keeper.generation ∧
      (keeper.schedule settings now).2.phase = keeper.phase := by
  obtain ⟨_, _, _, equal⟩ := schedule_keeps settings now keeper
  rw [equal]
  exact ⟨rfl, rfl, rfl⟩

theorem record_schedule (settings : Settings) (now : UInt32) (keeper : Keeper) :
    (keeper.schedule settings now).2.record = keeper.record := by
  obtain ⟨_, _, _, equal⟩ := schedule_keeps settings now keeper
  rw [equal]

theorem watchdog_schedule (settings : Settings) (now : UInt32) (keeper : Keeper) :
    (keeper.schedule settings now).2.watchdog = keeper.watchdog := by
  obtain ⟨_, _, _, equal⟩ := schedule_keeps settings now keeper
  rw [equal]

theorem retryLater_cases (settings : Settings) (now : UInt32) (random : Octets)
    (keeper : Keeper) :
    (∃ delay backoff rest, (keeper.backoff.next random).1 = .ok delay ∧
        keeper.retryLater settings now random =
          (.ok (), { keeper.settle settings now with backoff := backoff }.armTimer delay,
            rest)) ∨
      ∃ panic backoff rest, (keeper.backoff.next random).1 = .error panic ∧
        keeper.retryLater settings now random =
          (.error panic, { keeper.settle settings now with backoff := backoff }, rest) := by
  unfold retryLater
  split
  next drawn => exact .inl ⟨_, _, _, congrArg Prod.fst drawn, rfl⟩
  next endless => exact .inr ⟨_, _, _, congrArg Prod.fst endless, rfl⟩

theorem failRefresh_of_not (settings : Settings) (now : UInt32) {generation : UInt64}
    (reason : String) (random : Octets) (passed : ¬ keeper.IsAwaited generation) :
    keeper.failRefresh settings now generation reason random = (.ok (), keeper, random) :=
  if_neg passed

theorem settleAbandoned_of_not (settings : Settings) (now : UInt32) {generation : UInt64}
    (passed : ¬ keeper.IsAwaited generation) :
    keeper.settleAbandoned settings now generation = keeper :=
  if_neg passed

def IsFull (keeper : Keeper) : Prop := UInt32.size ≤ keeper.retries.toNat + 1

theorem not_isFull {attempt : UInt32} (number : keeper.retries.toNat + 1 = attempt.toNat) :
    ¬ keeper.IsFull := by
  rw [IsFull, number]
  exact Nat.not_le.mpr attempt.toNat_lt_size

/-- What a refresh that was waited for leaves as it fails: the answer, the keeper, and the random
octets that were not drawn. -/
inductive FailsTo (settings : Settings) (now : UInt32) (reason : String) (random : Octets)
    (keeper : Keeper) : Except Panic Unit × Keeper × Octets → Prop
  | exhausted {attempt : UInt32} (number : keeper.retries.toNat + 1 = attempt.toNat)
      (many : settings.refreshRetries < attempt.toNat) :
      FailsTo settings now reason random keeper
        (.ok (), (keeper.countFailure attempt reason).drop.emit
          (.refreshExhausted attempt.toNat), random)
  | retried {attempt : UInt32} {delay : Span} {backoff : Backoff} {rest : Octets}
      (number : keeper.retries.toNat + 1 = attempt.toNat)
      (few : attempt.toNat ≤ settings.refreshRetries)
      (drawn : (keeper.backoff.next random).1 = .ok delay) :
      FailsTo settings now reason random keeper
        (.ok (), { (keeper.countFailure attempt reason).settle settings now with
          backoff := backoff }.armTimer delay, rest)
  | endless {attempt : UInt32} {panic : Panic} {backoff : Backoff} {rest : Octets}
      (number : keeper.retries.toNat + 1 = attempt.toNat)
      (few : attempt.toNat ≤ settings.refreshRetries)
      (undrawn : (keeper.backoff.next random).1 = .error panic) :
      FailsTo settings now reason random keeper
        (.error panic, { (keeper.countFailure attempt reason).settle settings now with
          backoff := backoff }, rest)
  | full (full : keeper.IsFull) :
      FailsTo settings now reason random keeper (.error .addition, keeper.endWait, random)

theorem failRefresh_failsTo (settings : Settings) (now : UInt32) {generation : UInt64}
    (reason : String) (random : Octets) (awaited : keeper.IsAwaited generation) :
    keeper.FailsTo settings now reason random
      (keeper.failRefresh settings now generation reason random) := by
  rw [failRefresh, if_pos awaited]
  split
  next uncounted =>
    obtain ⟨rfl, full⟩ := Word.add_eq_error_iff.mp uncounted
    exact .full full
  next attempt counted =>
    have number : keeper.retries.toNat + 1 = attempt.toNat := Word.add_eq_ok_iff.mp counted
    dsimp only
    split
    next many => exact .exhausted number many
    next few =>
      rcases retryLater_cases settings now random (keeper.countFailure attempt reason) with
        ⟨_, _, _, drawn, equal⟩ | ⟨_, _, _, undrawn, equal⟩
      · rw [equal]
        exact .retried number (Nat.not_lt.mp few) drawn
      · rw [equal]
        exact .endless number (Nat.not_lt.mp few) undrawn

theorem enterRefresh_ok {generation : UInt64} {proof : String}
    (entered : keeper.enterRefresh settings = (.ok (generation, proof), after)) :
    ∃ record, keeper.record = some record ∧ keeper.phase ≠ .uninitialized ∧
      generation = keeper.generation + 1 ∧ proof = record.proof ∧
      after = { keeper with
        generation := keeper.generation + 1
        phase := .refreshInProgress }.armWatchdog (keeper.generation + 1)
          settings.responseTimeout := by
  unfold enterRefresh at entered
  split at entered
  next => simp at entered
  next initialized =>
    split at entered
    next => simp at entered
    next record held =>
      simp only [Prod.mk.injEq, Except.ok.injEq] at entered
      obtain ⟨⟨rfl, rfl⟩, rfl⟩ := entered
      exact ⟨record, held, initialized, rfl, rfl, rfl⟩

theorem enterRefresh_error {failure : Failure}
    (refused : keeper.enterRefresh settings = (.error failure, after)) :
    after = keeper ∧ (keeper.phase = .uninitialized ∨ keeper.record = none) := by
  unfold enterRefresh at refused
  split at refused
  next uninitialized =>
    simp only [Prod.mk.injEq] at refused
    exact ⟨refused.2.symm, .inl uninitialized⟩
  next =>
    split at refused
    next none =>
      simp only [Prod.mk.injEq] at refused
      exact ⟨refused.2.symm, .inr none⟩
    next => simp at refused

theorem isWatched_enterRefresh {generation : UInt64} {proof : String}
    (entered : keeper.enterRefresh settings = (.ok (generation, proof), after)) :
    after.IsWatched := by
  obtain ⟨_, _, _, _, _, rfl⟩ := enterRefresh_ok entered
  exact ⟨rfl, nofun⟩

theorem takeFlag?_some (taken : keeper.takeFlag? = some after) :
    keeper.inFlight = false ∧ after = { keeper with inFlight := true } := by
  unfold takeFlag? at taken
  split at taken
  next => cases taken
  next free => exact ⟨by simpa using free, (Option.some.inj taken).symm⟩

theorem takeFlag?_none (taken : keeper.takeFlag? = none) : keeper.inFlight = true := by
  unfold takeFlag? at taken
  split at taken
  next flag => exact flag
  next => cases taken

/-! ## All changes -/

/-- The ways in which a keeper can change while no refresh fails and no flag is taken. -/
inductive Change (settings : Settings) (keeper : Keeper) : Keeper → Prop where
  | same : Change settings keeper keeper
  | connect : Change settings keeper keeper.connect
  | allow (enabled : Bool) : Change settings keeper (keeper.allowAutoRefresh enabled)
  | tell (event : AuthEvent) (noFailure : ∀ attempt reason,
      event ≠ .refreshFailed attempt reason) : Change settings keeper (keeper.emit event)
  | confirm (expiry : UInt32) :
      Change settings keeper (keeper.resetRetries.emit (.authenticated expiry))
  | release : Change settings keeper keeper.releaseFlag
  | beginTask {task : Nat} (launched : keeper.duty? task = some .refresh) :
      Change settings keeper (keeper.endTask task)
  | fire {task : Nat} {delay : Span} (armed : keeper.duty? task = some (.launchAfter delay)) :
      Change settings keeper (keeper.fireTimer task)
  | enter {generation : UInt64} {proof : String} {entered : Keeper}
      (request : keeper.enterRefresh settings = (.ok (generation, proof), entered)) :
      Change settings keeper entered
  | abandon (now : UInt32) (generation : UInt64) :
      Change settings keeper (keeper.abandonRefresh settings now generation)
  | schedule (now : UInt32) : Change settings keeper (keeper.schedule settings now).2
  | start (now : UInt32) (stored : Option TokenRecord)
      (uninitialized : keeper.phase = .uninitialized) :
      Change settings keeper (keeper.beginWith settings now stored)
  | replace (now : UInt32) (record : TokenRecord) (initialized : keeper.phase ≠ .uninitialized) :
      Change settings keeper
        ((keeper.replace settings now record).emit (.tokenStored record.expiry))
  | miss (initialized : keeper.phase ≠ .uninitialized) (none : keeper.record = none) :
      Change settings keeper keeper.takeAnswer.missToken
  | renew (now : UInt32) {record : TokenRecord} (renewed : TokenRecord)
      (initialized : keeper.phase ≠ .uninitialized) (held : keeper.record = some record) :
      Change settings keeper
        ((keeper.takeAnswer.hold settings now renewed).emit (.refreshed renewed.expiry))
  | reject (reason : String) (initialized : keeper.phase ≠ .uninitialized) :
      Change settings keeper (keeper.takeAnswer.drop.emit (.authFailed reason))
  | wipe : Change settings keeper (keeper.wipe.emit .tokenCleared)
  | shutdown : Change settings keeper keeper.shutdown

/-! ## Tidiness is preserved -/

namespace Tidy

theorem schedule (tidy : keeper.Tidy) (settings : Settings) (now : UInt32) :
    (keeper.schedule settings now).2.Tidy := by
  have schedules := schedule_schedulesTo settings now keeper
  generalize keeper.schedule settings now = answer at schedules ⊢
  cases schedules with
  | immediate => exact tidy.cancelTimer.launchRefresh
  | armed _ delay => exact tidy.cancelTimer.armTimer delay
  | _ => exact tidy.cancelTimer

theorem failRefresh (tidy : keeper.Tidy) (settings : Settings) (now : UInt32)
    (generation : UInt64) (reason : String) (random : Octets) :
    (keeper.failRefresh settings now generation reason random).2.1.Tidy := by
  by_cases awaited : keeper.IsAwaited generation
  · have counted : ∀ attempt, (keeper.countFailure attempt reason).Tidy := fun attempt =>
      tidy.cancelWatchdog.of_same rfl rfl rfl rfl
    have fails := failRefresh_failsTo settings now reason random awaited
    generalize keeper.failRefresh settings now generation reason random = answer at fails ⊢
    cases fails with
    | exhausted => exact (counted _).cancelTimer.of_same rfl rfl rfl rfl
    | @retried attempt delay backoff =>
        have settled : { (keeper.countFailure attempt reason).settle settings now with
            backoff := backoff }.Tidy := (counted attempt).of_same rfl rfl rfl rfl
        exact settled.armTimer delay
    | @endless attempt => exact (counted attempt).of_same rfl rfl rfl rfl
    | full => exact tidy.cancelWatchdog.of_same rfl rfl rfl rfl
  · rw [failRefresh_of_not settings now reason random awaited]
    exact tidy

theorem abandonRefresh (tidy : keeper.Tidy) (settings : Settings) (now : UInt32)
    (generation : UInt64) : (keeper.abandonRefresh settings now generation).Tidy := by
  unfold Keeper.abandonRefresh settleAbandoned
  split
  · exact tidy.cancelWatchdog.of_same rfl rfl rfl rfl
  · exact tidy.of_same rfl rfl rfl rfl

theorem change (tidy : keeper.Tidy) (change : Change settings keeper after) : after.Tidy := by
  have silent := tidy.cancelWatchdog
  cases change with
  | same => exact tidy
  | beginTask => exact tidy.endTask _
  | fire => exact (tidy.endTask _).launchRefresh
  | enter request =>
      rcases enterRefresh_ok request with ⟨_, _, _, rfl, _, rfl⟩
      have begun : { keeper with
          generation := keeper.generation + 1
          phase := .refreshInProgress }.Tidy := tidy.of_same rfl rfl rfl rfl
      exact begun.armWatchdog _ _
  | abandon now generation => exact tidy.abandonRefresh settings now generation
  | schedule now => exact tidy.schedule settings now
  | start now stored =>
      cases stored with
      | none => exact tidy.of_same rfl rfl rfl rfl
      | some => exact tidy.of_same rfl rfl rfl rfl
  | replace => exact silent.of_same rfl rfl rfl rfl
  | miss => exact silent.of_same rfl rfl rfl rfl
  | renew => exact silent.of_same rfl rfl rfl rfl
  | reject => exact silent.cancelTimer.of_same rfl rfl rfl rfl
  | wipe => exact tidy.cancelTimer.cancelWatchdog.of_same rfl rfl rfl rfl
  | shutdown => exact tidy.shutdown
  | _ => exact tidy.of_same rfl rfl rfl rfl

end Tidy

/-! ## Soundness is preserved -/

namespace Sound

theorem failRefresh_of_isAwaited (tidy : keeper.Tidy) (now : UInt32) {generation : UInt64}
    (reason : String) (random : Octets) (awaited : keeper.IsAwaited generation) :
    (keeper.failRefresh settings now generation reason random).2.1.Sound settings := by
  have tidied := tidy.failRefresh settings now generation reason random
  have fails := failRefresh_failsTo settings now reason random awaited
  generalize keeper.failRefresh settings now generation reason random = answer at fails tidied ⊢
  cases fails
  all_goals exact of_unwatched tidied rfl

theorem failRefresh (sound : keeper.Sound settings) (now : UInt32) (generation : UInt64)
    (reason : String) (random : Octets) :
    (keeper.failRefresh settings now generation reason random).2.1.Sound settings := by
  by_cases awaited : keeper.IsAwaited generation
  · exact failRefresh_of_isAwaited sound.tidy now reason random awaited
  · rw [failRefresh_of_not settings now reason random awaited]
    exact sound

theorem lapse (sound : keeper.Sound settings) {task : Nat} {generation : UInt64} {limit : Span}
    (armed : keeper.duty? task = some (.watch generation limit)) (now : UInt32)
    (reason : String) (random : Octets) :
    ((keeper.endTask task).failRefresh settings now generation reason random).2.1.Sound
      settings := by
  have awaited := (sound.isAwaited_of_mem ((sound.tidy.duty?_eq_some_iff _ _).mp armed)).1
  exact failRefresh_of_isAwaited (sound.tidy.endTask _) now reason random awaited

theorem schedule (sound : keeper.Sound settings) (now : UInt32) :
    (keeper.schedule settings now).2.Sound settings := by
  have schedules := schedule_schedulesTo settings now keeper
  generalize keeper.schedule settings now = answer at schedules ⊢
  cases schedules with
  | immediate => exact sound.cancelTimer.launchRefresh
  | armed _ delay => exact sound.cancelTimer.armTimer delay
  | _ => exact sound.cancelTimer

theorem abandonRefresh (sound : keeper.Sound settings) (now : UInt32) (generation : UInt64) :
    (keeper.abandonRefresh settings now generation).Sound settings := by
  have tidied := sound.tidy.abandonRefresh settings now generation
  have released : keeper.releaseFlag.Sound settings := sound.of_same rfl rfl rfl rfl rfl rfl
  unfold Keeper.abandonRefresh settleAbandoned at tidied ⊢
  split
  next awaited =>
    rw [if_pos awaited] at tidied
    exact of_unwatched tidied rfl
  next => exact released

theorem beginWith (sound : keeper.Sound settings) (now : UInt32) (stored : Option TokenRecord)
    (uninitialized : keeper.phase = .uninitialized) :
    (keeper.beginWith settings now stored).Sound settings := by
  have watchdog : keeper.watchdog = none := by
    by_contra some
    obtain ⟨id, remembered⟩ := Option.ne_none_iff_exists'.mp some
    have refreshing := (sound.watches id remembered).1
    rw [uninitialized] at refreshing
    cases refreshing
  have begun : Change settings keeper (keeper.beginWith settings now stored) :=
    .start now stored uninitialized
  have tidied := sound.tidy.change begun
  cases stored with
  | none => exact of_unwatched tidied watchdog
  | some record => exact of_unwatched tidied watchdog

theorem takeFlag (sound : keeper.Sound settings) (taken : keeper.takeFlag? = some after) :
    after.Sound settings := by
  rw [(takeFlag?_some taken).2]
  exact sound.of_same rfl rfl rfl rfl rfl rfl

theorem change (sound : keeper.Sound settings) (change : Change settings keeper after) :
    after.Sound settings := by
  have tidied := sound.tidy.change change
  cases change with
  | beginTask launched =>
      exact sound.endTask ((sound.tidy.duty?_eq_some_iff _ _).mp launched) rfl
  | fire armed =>
      exact (sound.endTask ((sound.tidy.duty?_eq_some_iff _ _).mp armed) rfl).launchRefresh
  | enter request =>
      obtain ⟨_, _, _, rfl, _, rfl⟩ := enterRefresh_ok request
      refine ⟨tidied, fun id remembered => ⟨rfl, ?_⟩⟩
      cases remembered
      rw [mem_tasks_armWatchdog]
      exact .inr rfl
  | abandon now generation => exact sound.abandonRefresh now generation
  | schedule now => exact sound.schedule now
  | start now stored uninitialized => exact sound.beginWith now stored uninitialized
  | replace => exact of_unwatched tidied rfl
  | miss => exact of_unwatched tidied rfl
  | renew => exact of_unwatched tidied rfl
  | reject => exact of_unwatched tidied rfl
  | wipe => exact of_unwatched tidied rfl
  | shutdown => exact of_unwatched tidied rfl
  | _ => exact sound.of_same rfl rfl rfl rfl rfl rfl

end Sound

/-! ## The flag and the phase -/

theorem inFlight_failRefresh (settings : Settings) (now : UInt32) {generation : UInt64}
    (reason : String) (random : Octets) (awaited : keeper.IsAwaited generation) :
    (keeper.failRefresh settings now generation reason random).2.1.inFlight = false := by
  have fails := failRefresh_failsTo settings now reason random awaited
  generalize keeper.failRefresh settings now generation reason random = answer at fails ⊢
  cases fails
  all_goals rfl

theorem kept_failRefresh (settings : Settings) (now : UInt32) (generation : UInt64)
    (reason : String) (random : Octets)
    (flag : (keeper.failRefresh settings now generation reason random).2.1.inFlight = true) :
    keeper.inFlight = true ∧ (keeper.IsWatched →
      (keeper.failRefresh settings now generation reason random).2.1.IsWatched) := by
  by_cases awaited : keeper.IsAwaited generation
  · rw [inFlight_failRefresh settings now reason random awaited] at flag
    cases flag
  · rw [failRefresh_of_not settings now reason random awaited] at flag ⊢
    exact ⟨flag, id⟩

theorem number_failRefresh (settings : Settings) (now : UInt32) (generation : UInt64)
    (reason : String) (random : Octets) :
    (keeper.failRefresh settings now generation reason random).2.1.generation =
        keeper.generation ∧
      ((keeper.failRefresh settings now generation reason random).2.1.phase =
        .refreshInProgress → keeper.phase = .refreshInProgress) := by
  by_cases awaited : keeper.IsAwaited generation
  · refine ⟨?_, fun _ => awaited.2⟩
    have fails := failRefresh_failsTo settings now reason random awaited
    generalize keeper.failRefresh settings now generation reason random = answer at fails ⊢
    cases fails
    all_goals rfl
  · rw [failRefresh_of_not settings now reason random awaited]
    exact ⟨rfl, id⟩

namespace Change

theorem kept (change : Change settings keeper after) (flag : after.inFlight = true) :
    keeper.inFlight = true ∧ (keeper.IsWatched → after.IsWatched) := by
  cases change with
  | enter request =>
      have watched := isWatched_enterRefresh request
      obtain ⟨_, _, _, _, _, rfl⟩ := enterRefresh_ok request
      exact ⟨flag, fun _ => watched⟩
  | abandon now generation =>
      unfold abandonRefresh settleAbandoned at flag
      split at flag
      all_goals cases flag
  | schedule now =>
      rcases schedule_kept settings now keeper with ⟨same, _, phase⟩
      refine ⟨same ▸ flag, ?_⟩
      rw [IsWatched, IsWatched, phase, watchdog_schedule]
      exact id
  | start now stored uninitialized =>
      refine ⟨?_, fun watched => ?_⟩
      · cases stored <;> exact flag
      · rw [IsWatched, uninitialized] at watched
        cases watched.1
  | same => exact ⟨flag, id⟩
  | connect => exact ⟨flag, id⟩
  | allow => exact ⟨flag, id⟩
  | tell => exact ⟨flag, id⟩
  | confirm => exact ⟨flag, id⟩
  | beginTask => exact ⟨flag, id⟩
  | fire => exact ⟨flag, id⟩
  | _ => cases flag

/-- A refresh gets the next number, and so do answers and whatever ends everything. To
wait for an answer takes a new number. -/
theorem number (change : Change settings keeper after) :
    after.generation = keeper.generation + 1 ∨
      after.generation = keeper.generation ∧
        (after.phase = .refreshInProgress → keeper.phase = .refreshInProgress) := by
  cases change with
  | enter request =>
      obtain ⟨_, _, _, _, _, rfl⟩ := enterRefresh_ok request
      exact .inl rfl
  | abandon now generation =>
      right
      unfold abandonRefresh settleAbandoned
      split
      next awaited => exact ⟨rfl, fun _ => awaited.2⟩
      next => exact ⟨rfl, id⟩
  | schedule now =>
      rcases schedule_kept settings now keeper with ⟨_, same, phase⟩
      rw [phase]
      exact .inr ⟨same, id⟩
  | start now stored =>
      cases stored with
      | none => exact .inr ⟨rfl, nofun⟩
      | some record =>
          exact .inr ⟨rfl, fun refreshing =>
            absurd refreshing (phase_hold_ne settings now record keeper)⟩
  | replace now record =>
      exact .inr ⟨rfl, fun refreshing => absurd refreshing
        (phase_replace_ne settings now record keeper)⟩
  | miss => exact .inl rfl
  | renew => exact .inl rfl
  | reject => exact .inl rfl
  | wipe => exact .inl rfl
  | shutdown => exact .inl rfl
  | _ => exact .inr ⟨rfl, id⟩

end Change

/-! ## Watched answers -/

def Guarded (keeper : Keeper) : Prop :=
  keeper.phase = .refreshInProgress → keeper.watchdog ≠ none

namespace Guarded

theorem create (settings : Settings) : (Keeper.create settings).Guarded := nofun

theorem of_same (guarded : keeper.Guarded) (phase : after.phase = keeper.phase)
    (watchdog : after.watchdog = keeper.watchdog) : after.Guarded := by
  rw [Guarded, phase, watchdog]
  exact guarded

theorem change (guarded : keeper.Guarded) (change : Change settings keeper after) :
    after.Guarded := by
  cases change with
  | enter request => exact fun _ => (isWatched_enterRefresh request).2
  | abandon now generation =>
      unfold abandonRefresh settleAbandoned
      split
      · exact fun refreshing => absurd refreshing (phase_settle_ne settings now _)
      · exact guarded
  | schedule now =>
      exact guarded.of_same (schedule_kept settings now keeper).2.2
        (watchdog_schedule settings now keeper)
  | start now stored =>
      cases stored with
      | none => nofun
      | some record =>
          exact fun refreshing => absurd refreshing (phase_hold_ne settings now record keeper)
  | replace now record =>
      exact fun refreshing => absurd refreshing (phase_replace_ne settings now record keeper)
  | miss => nofun
  | renew now renewed =>
      exact fun refreshing =>
        absurd refreshing (phase_hold_ne settings now renewed keeper.takeAnswer)
  | reject => nofun
  | wipe =>
      intro refreshing
      change (if keeper.phase = .uninitialized then Phase.uninitialized
        else .invalidOrMissing) = _ at refreshing
      split at refreshing
      all_goals cases refreshing
  | shutdown => nofun
  | _ => exact guarded

theorem failRefresh (guarded : keeper.Guarded)
    (countable : keeper.phase = .refreshInProgress → ¬ keeper.IsFull) (now : UInt32)
    (generation : UInt64) (reason : String) (random : Octets) :
    (keeper.failRefresh settings now generation reason random).2.1.Guarded := by
  by_cases awaited : keeper.IsAwaited generation
  · have fails := failRefresh_failsTo settings now reason random awaited
    generalize keeper.failRefresh settings now generation reason random = answer at fails ⊢
    cases fails with
    | exhausted => nofun
    | retried => exact fun refreshing => absurd refreshing (phase_settle_ne settings now _)
    | endless => exact fun refreshing => absurd refreshing (phase_settle_ne settings now _)
    | full full => exact absurd full (countable awaited.2)
  · rw [failRefresh_of_not settings now reason random awaited]
    exact guarded

end Guarded

end Keeper

end DeviceAuth
