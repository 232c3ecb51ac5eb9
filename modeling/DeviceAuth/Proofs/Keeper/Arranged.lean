import DeviceAuth.Proofs.Keeper.Change

/-! Whether a keeper will refresh its token. It will if a timer is set or a refresh was
launched, and also while an answer is waited for, since its watchdog sees to whatever
comes next. -/

namespace DeviceAuth

namespace Keeper

variable {keeper other : Keeper} {settings : Settings}

def IsArranged (keeper : Keeper) : Prop :=
  (∃ task ∈ keeper.tasks, task.duty.isTimer = true) ∨
    (∃ task ∈ keeper.tasks, task.duty = .refresh) ∨
    keeper.phase = .refreshInProgress ∧ ∃ task ∈ keeper.tasks, task.duty.isWatch = true

instance (keeper : Keeper) : Decidable keeper.IsArranged :=
  inferInstanceAs (Decidable (_ ∨ _ ∨ _ ∧ _))

def IsCovered (keeper : Keeper) : Prop :=
  keeper.record = none ∨ keeper.autoRefresh = false ∨ keeper.IsArranged

theorem IsCovered.arranged (arranged : keeper.IsArranged) : keeper.IsCovered :=
  .inr (.inr arranged)

theorem IsArranged.of_same (arranged : keeper.IsArranged) (tasks : other.tasks = keeper.tasks)
    (phase : other.phase = keeper.phase) : other.IsArranged := by
  unfold IsArranged
  rw [tasks, phase]
  exact arranged

theorem IsCovered.of_same (covered : keeper.IsCovered) (record : other.record = keeper.record)
    (autoRefresh : other.autoRefresh = keeper.autoRefresh)
    (tasks : other.tasks = keeper.tasks) (phase : other.phase = keeper.phase) :
    other.IsCovered := by
  rcases covered with none | off | arranged
  · exact .inl (record.trans none)
  · exact .inr (.inl (autoRefresh.trans off))
  · exact .arranged (arranged.of_same tasks phase)

theorem isArranged_armTimer (delay : Span) (keeper : Keeper) :
    (keeper.armTimer delay).IsArranged := by
  left
  refine ⟨⟨keeper.nextTask, .launchAfter delay⟩, ?_, rfl⟩
  rw [mem_tasks_armTimer]
  exact .inr rfl

theorem isArranged_launchRefresh (keeper : Keeper) : keeper.launchRefresh.IsArranged := by
  right
  left
  refine ⟨⟨keeper.nextTask, .refresh⟩, ?_, rfl⟩
  rw [launchRefresh, mem_tasks_launch]
  exact .inr rfl

theorem Sound.isArranged (sound : keeper.Sound settings) (watched : keeper.IsWatched) :
    keeper.IsArranged := by
  rcases sound.mem_of_isWatched watched with ⟨id, _, member⟩
  exact .inr (.inr ⟨watched.1, _, member, rfl⟩)

theorem IsArranged.tasks_ne_nil (arranged : keeper.IsArranged) : keeper.tasks ≠ [] := by
  rcases arranged with ⟨_, member, _⟩ | ⟨_, member, _⟩ | ⟨_, _, member, _⟩
  all_goals exact List.ne_nil_of_mem member

theorem Sound.isArranged_of_tasks (sound : keeper.Sound settings) (some : keeper.tasks ≠ []) :
    keeper.IsArranged := by
  rcases List.exists_mem_of_ne_nil _ some with ⟨⟨id, duty⟩, member⟩
  cases duty with
  | launchAfter delay => exact .inl ⟨_, member, rfl⟩
  | refresh => exact .inr (.inl ⟨_, member, rfl⟩)
  | watch generation limit =>
      exact .inr (.inr ⟨(sound.isAwaited_of_mem member).1.2, _, member, rfl⟩)

def CanSchedule (settings : Settings) (now : UInt32) (keeper : Keeper) : Prop :=
  (keeper.schedule settings now).1 = .ok .immediate ∨
    ∃ moment, (keeper.schedule settings now).1 = .ok (.armed moment)

theorem tasks_schedule_of_canSchedule {now : UInt32} (can : keeper.CanSchedule settings now) :
    (keeper.schedule settings now).2.tasks ≠ [] := by
  unfold CanSchedule at can
  have schedules := schedule_schedulesTo settings now keeper
  generalize keeper.schedule settings now = answer at schedules can ⊢
  cases schedules with
  | immediate => simp [launchRefresh, launch]
  | armed => simp [armTimer, launch]
  | _ => simp at can

theorem tasks_schedule_of_not {now : UInt32} (cannot : ¬ keeper.CanSchedule settings now)
    (none : keeper.tasks = []) : (keeper.schedule settings now).2.tasks = [] := by
  unfold CanSchedule at cannot
  have cleared : keeper.cancelTimer.tasks = [] := by simp [cancelTimer, none]
  have schedules := schedule_schedulesTo settings now keeper
  generalize keeper.schedule settings now = answer at schedules cannot ⊢
  cases schedules with
  | immediate => simp at cannot
  | armed => simp at cannot
  | _ => exact cleared

theorem isCovered_schedule {now : UInt32}
    (decided : (keeper.schedule settings now).1 ≠ .error .subtraction) :
    (keeper.schedule settings now).2.IsCovered := by
  have schedules := schedule_schedulesTo settings now keeper
  generalize keeper.schedule settings now = answer at schedules decided ⊢
  cases schedules with
  | disabled off => exact .inr (.inl off)
  | noToken none => exact .inl none
  | immediate => exact .arranged (isArranged_launchRefresh keeper.cancelTimer)
  | armed _ delay => exact .arranged (isArranged_armTimer delay keeper.cancelTimer)
  | passed => exact absurd rfl decided

/-- Another failure cannot be counted, or it would be followed by a delay that cannot be
computed. -/
def PanicsAtFailure (random : Octets) (keeper : Keeper) : Prop :=
  keeper.IsFull ∨ ∃ panic, (keeper.backoff.next random).1 = .error panic

theorem isCovered_failRefresh {now : UInt32} {generation : UInt64} {reason : String}
    {random : Octets} (awaited : keeper.IsAwaited generation)
    (calm : ¬ keeper.PanicsAtFailure random) :
    (keeper.failRefresh settings now generation reason random).2.1.IsCovered := by
  have fails := failRefresh_failsTo settings now reason random awaited
  generalize keeper.failRefresh settings now generation reason random = answer at fails ⊢
  cases fails with
  | exhausted => exact .inl rfl
  | retried => exact .arranged (isArranged_armTimer _ _)
  | endless _ _ undrawn => exact absurd (.inr ⟨_, undrawn⟩) calm
  | full full => exact absurd (.inl full) calm

def CanRetry (settings : Settings) (random : Octets) (keeper : Keeper) : Prop :=
  ¬ keeper.PanicsAtFailure random ∧ keeper.retries.toNat < settings.refreshRetries

theorem tasks_failRefresh_of_canRetry {now : UInt32} {generation : UInt64} {reason : String}
    {random : Octets} (awaited : keeper.IsAwaited generation)
    (can : keeper.CanRetry settings random) :
    (keeper.failRefresh settings now generation reason random).2.1.tasks ≠ [] := by
  obtain ⟨calm, few⟩ := can
  have fails := failRefresh_failsTo settings now reason random awaited
  generalize keeper.failRefresh settings now generation reason random = answer at fails ⊢
  cases fails with
  | exhausted number many => omega
  | retried => exact (isArranged_armTimer _ _).tasks_ne_nil
  | endless _ _ undrawn => exact absurd (.inr ⟨_, undrawn⟩) calm
  | full full => exact absurd (.inl full) calm

theorem tasks_failRefresh_of_not {now : UInt32} {generation : UInt64} {reason : String}
    {random : Octets} (cannot : keeper.IsAwaited generation → ¬ keeper.CanRetry settings random)
    (none : keeper.tasks = []) :
    (keeper.failRefresh settings now generation reason random).2.1.tasks = [] := by
  have filtered : ∀ keep : Task → Bool, keeper.tasks.filter keep = [] := by
    intro keep
    rw [none]
    rfl
  by_cases awaited : keeper.IsAwaited generation
  · have fails := failRefresh_failsTo settings now reason random awaited
    generalize keeper.failRefresh settings now generation reason random = answer at fails ⊢
    cases fails with
    | exhausted => exact (congrArg (List.filter _) (filtered _)).trans rfl
    | retried number few drawn =>
        refine absurd ⟨?_, by omega⟩ (cannot awaited)
        rintro (full | ⟨panic, undrawn⟩)
        · exact not_isFull number full
        · rw [drawn] at undrawn
          cases undrawn
    | endless => exact filtered _
    | full => exact filtered _
  · rw [failRefresh_of_not settings now reason random awaited]
    exact none

theorem isArranged_enterRefresh {generation : UInt64} {proof : String}
    (entered : keeper.enterRefresh settings = (.ok (generation, proof), other)) :
    other.IsArranged := by
  rcases enterRefresh_ok entered with ⟨_, _, _, _, _, rfl⟩
  right
  right
  refine ⟨rfl, ⟨keeper.nextTask, .watch (keeper.generation + 1) settings.responseTimeout⟩, ?_, rfl⟩
  rw [mem_tasks_armWatchdog]
  exact .inr rfl

end Keeper

end DeviceAuth
