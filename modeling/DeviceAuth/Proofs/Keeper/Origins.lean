import DeviceAuth.Proofs.Keeper.Schedule

/-! Where tasks come from. A task that has not ended after a change had begun before, or the timer
has launched it, or it is the watchdog of a request, or a refresh was arranged for. Only a
failure sets the timer without asking whether automatic refreshes are allowed. From this it
follows what the tasks say about their keeper: a timer is only set while a token is held, and a
watchdog only while an answer is waited for. -/

namespace DeviceAuth

namespace Keeper

variable {keeper after : Keeper} {settings : Settings} {task : Task}

/-! ## Origins -/

inductive Origin (keeper after : Keeper) (task : Task) : Prop where
  | kept (member : task ∈ keeper.tasks)
      (held : task.duty.isTimer = true → keeper.record ≠ none → after.record ≠ none)
      (awaited : task.duty.isWatch = true → keeper.phase = .refreshInProgress →
        after.phase = .refreshInProgress)
  | fired {timer : Task} (member : timer ∈ keeper.tasks) (isTimer : timer.duty.isTimer = true)
      (launched : task.duty = .refresh)
  | watches (isWatch : task.duty.isWatch = true) (awaited : after.phase = .refreshInProgress)
  | arranged (allowed : keeper.autoRefresh = true) (held : after.record ≠ none)
      (noWatch : task.duty.isWatch = false)

structure Retried (settings : Settings) (generation : UInt64) (keeper after : Keeper)
    (task : Task) : Prop where
  awaited : keeper.IsAwaited generation
  countable : ¬ keeper.IsFull
  few : keeper.retries.toNat + 1 ≤ settings.refreshRetries
  record : after.record = keeper.record
  isTimer : task.duty.isTimer = true

namespace Origin

theorem of_same (member : task ∈ keeper.tasks) (record : after.record = keeper.record)
    (phase : after.phase = keeper.phase) : Origin keeper after task :=
  .kept member (fun _ held => record ▸ held) fun _ awaited => phase.trans awaited

theorem of_silenced (tidy : keeper.Tidy) (member : task ∈ keeper.cancelWatchdog.tasks)
    (held : keeper.record ≠ none → after.record ≠ none) : Origin keeper after task := by
  refine .kept ((mem_tasks_cancelWatchdog _).mp member).1 (fun _ => held) fun isWatch => ?_
  simp [tidy.isWatch_of_mem_cancelWatchdog task member] at isWatch

theorem of_launched (member : task ∈ keeper.tasks) (noTimer : task.duty.isTimer = false)
    (noWatch : task.duty.isWatch = false) : Origin keeper after task :=
  .kept member (by simp [noTimer]) (by simp [noWatch])

theorem of_emptied (tidy : keeper.Tidy)
    (member : task ∈ keeper.cancelWatchdog.cancelTimer.tasks) : Origin keeper after task := by
  have silent := ((mem_tasks_cancelTimer _).mp member).1
  exact .of_launched ((mem_tasks_cancelWatchdog _).mp silent).1
    (tidy.cancelWatchdog.isTimer_of_mem_cancelTimer task member)
    (tidy.isWatch_of_mem_cancelWatchdog task silent)

end Origin

theorem origin_schedule (now : UInt32) (member : task ∈ (keeper.schedule settings now).2.tasks) :
    Origin keeper (keeper.schedule settings now).2 task := by
  have record := record_schedule settings now keeper
  have kept : task ∈ keeper.cancelTimer.tasks →
      Origin keeper (keeper.schedule settings now).2 task := fun old =>
    .of_same ((mem_tasks_cancelTimer _).mp old).1 record (schedule_kept settings now keeper).2.2
  cases allowed : keeper.autoRefresh with
  | false =>
      rw [schedule_disabled allowed] at member
      exact kept member
  | true =>
    cases held : keeper.record with
    | none =>
        rw [schedule_noToken allowed held] at member
        exact kept member
    | some =>
        have present : (keeper.schedule settings now).2.record ≠ none := by simp [record, held]
        have schedules := schedule_schedulesTo settings now keeper
        generalize keeper.schedule settings now = answer at schedules member kept present ⊢
        cases schedules with
        | immediate =>
            rcases (mem_tasks_launch _ _).mp member with old | rfl
            · exact kept old
            · exact .arranged allowed present rfl
        | armed =>
            rcases (mem_tasks_armTimer _ _).mp member with ⟨old, _⟩ | rfl
            · exact kept old
            · exact .arranged allowed present rfl
        | _ => exact kept member

theorem Change.origin (tidy : keeper.Tidy) (change : Change settings keeper after)
    (member : task ∈ after.tasks) : Origin keeper after task := by
  cases change with
  | beginTask => exact .of_same ((mem_tasks_endTask _ _).mp member).1 rfl rfl
  | fire armed =>
      rcases (mem_tasks_launch _ _).mp member with old | rfl
      · exact .of_same ((mem_tasks_endTask _ _).mp old).1 rfl rfl
      · exact .fired ((tidy.duty?_eq_some_iff _ _).mp armed) rfl rfl
  | enter request =>
      rcases enterRefresh_ok request with ⟨_, _, _, _, _, rfl⟩
      rcases (mem_tasks_armWatchdog _ _ _).mp member with old | rfl
      · exact .of_silenced tidy ((mem_tasks_cancelWatchdog _).mpr old) id
      · exact .watches rfl rfl
  | abandon now generation =>
      unfold abandonRefresh settleAbandoned at member ⊢
      split at member
      next awaited =>
        rw [if_pos awaited]
        exact .of_silenced tidy member id
      next passed =>
        rw [if_neg passed]
        exact .of_same member rfl rfl
  | schedule now => exact origin_schedule now member
  | start now stored uninitialized =>
      cases stored with
      | none => exact .kept member (fun _ => id) (by simp [uninitialized])
      | some => exact .kept member (fun _ _ => nofun) (by simp [uninitialized])
  | replace => exact .of_silenced tidy member fun _ => nofun
  | miss => exact .of_silenced tidy member id
  | renew => exact .of_silenced tidy member fun _ => nofun
  | reject => exact .of_emptied tidy member
  | wipe =>
      have untimed := ((mem_tasks_cancelWatchdog _).mp member).1
      exact .of_launched ((mem_tasks_cancelTimer _).mp untimed).1
        (tidy.isTimer_of_mem_cancelTimer task untimed)
        (tidy.cancelTimer.isWatch_of_mem_cancelWatchdog task member)
  | shutdown =>
      -- Of the tasks only refreshes that were launched outlast a shutdown.
      rcases (mem_tasks_shutdown _).mp member with ⟨old, runs⟩
      cases duty : task.duty with
      | refresh =>
          exact .of_launched old (by simp [duty, Duty.isTimer]) (by simp [duty, Duty.isWatch])
      | _ => simp [duty, isStoppedByShutdown] at runs
  | _ => exact .of_same member rfl rfl

theorem origin_failRefresh (tidy : keeper.Tidy) (now : UInt32) (generation : UInt64)
    (reason : String) (random : Octets)
    (member : task ∈ (keeper.failRefresh settings now generation reason random).2.1.tasks) :
    Origin keeper (keeper.failRefresh settings now generation reason random).2.1 task ∨
      Retried settings generation keeper
        (keeper.failRefresh settings now generation reason random).2.1 task := by
  by_cases awaited : keeper.IsAwaited generation
  case neg =>
    rw [failRefresh_of_not settings now reason random awaited] at member ⊢
    exact .inl (.of_same member rfl rfl)
  case pos =>
    have fails := failRefresh_failsTo settings now reason random awaited
    generalize keeper.failRefresh settings now generation reason random = answer at fails member ⊢
    cases fails with
    | exhausted => exact .inl (.of_emptied tidy member)
    | retried number few =>
        rcases (mem_tasks_armTimer _ _).mp member with ⟨old, _⟩ | rfl
        · exact .inl (.of_silenced tidy old id)
        · exact .inr ⟨awaited, not_isFull number, number ▸ few, rfl, rfl⟩
    | endless => exact .inl (.of_silenced tidy member id)
    | full => exact .inl (.of_silenced tidy member id)

/-! ## What tasks are there for -/

/-- A keeper whose tasks are its own, and are there for something. -/
structure Owned (keeper : Keeper) : Prop where
  tidy : keeper.Tidy
  held : ∀ task ∈ keeper.tasks, task.duty.isTimer = true → keeper.record ≠ none
  awaited : ∀ task ∈ keeper.tasks, task.duty.isWatch = true → keeper.phase = .refreshInProgress

namespace Owned

theorem create (settings : Settings) : (Keeper.create settings).Owned where
  tidy := .create settings
  held := nofun
  awaited := nofun

theorem of_origin (owned : keeper.Owned) (tidy : after.Tidy)
    (origin : ∀ task ∈ after.tasks, Origin keeper after task ∨
      task.duty.isTimer = true ∧ after.record ≠ none) : after.Owned where
  tidy := tidy
  held task member isTimer := by
    rcases origin task member with origin | ⟨_, held⟩
    case inr => exact held
    cases origin with
    | kept old held => exact held isTimer (owned.held task old isTimer)
    | fired _ _ launched => simp [launched, Duty.isTimer] at isTimer
    | watches isWatch => simp [Duty.isTimer_of_isWatch isWatch] at isTimer
    | arranged _ held => exact held
  awaited task member isWatch := by
    rcases origin task member with origin | ⟨isTimer, _⟩
    case inr => simp [Duty.isTimer_of_isWatch isWatch] at isTimer
    cases origin with
    | kept old _ awaited => exact awaited isWatch (owned.awaited task old isWatch)
    | fired _ _ launched => simp [launched, Duty.isWatch] at isWatch
    | watches _ awaited => exact awaited
    | arranged _ _ noWatch => simp [noWatch] at isWatch

theorem change (owned : keeper.Owned) (change : Change settings keeper after) : after.Owned :=
  owned.of_origin (owned.tidy.change change) fun _ member =>
    .inl (change.origin owned.tidy member)

theorem failRefresh (owned : keeper.Owned)
    (present : keeper.phase = .refreshInProgress → keeper.record ≠ none) (now : UInt32)
    (generation : UInt64) (reason : String) (random : Octets) :
    (keeper.failRefresh settings now generation reason random).2.1.Owned := by
  apply owned.of_origin (owned.tidy.failRefresh settings now generation reason random)
  intro task member
  rcases origin_failRefresh owned.tidy now generation reason random member with old | retried
  · exact .inl old
  · refine .inr ⟨retried.isTimer, ?_⟩
    rw [retried.record]
    exact present retried.awaited.2

theorem endTask (owned : keeper.Owned) (id : Nat) : (keeper.endTask id).Owned where
  tidy := owned.tidy.endTask id
  held task member := owned.held task ((mem_tasks_endTask id task).mp member).1
  awaited task member := owned.awaited task ((mem_tasks_endTask id task).mp member).1

theorem takeFlag (owned : keeper.Owned) (taken : keeper.takeFlag? = some after) :
    after.Owned := by
  rw [(takeFlag?_some taken).2]
  exact ⟨owned.tidy.of_same rfl rfl rfl rfl, owned.held, owned.awaited⟩

theorem eq_refresh_of_missing (owned : keeper.Owned)
    (present : keeper.phase = .refreshInProgress → keeper.record ≠ none)
    (missing : keeper.record = none) (member : task ∈ keeper.tasks) : task.duty = .refresh := by
  apply Duty.eq_refresh_of_not
  · by_contra isTimer
    exact owned.held task member (by simpa using isTimer) missing
  · by_contra isWatch
    exact present (owned.awaited task member (by simpa using isWatch)) missing

end Owned

end Keeper

end DeviceAuth
