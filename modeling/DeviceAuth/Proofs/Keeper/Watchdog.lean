import DeviceAuth.Proofs.Keeper.Tasks

/-! The watchdog of a keeper. It waits for just the answer that the keeper waits for, and
without such an answer there is no watchdog. Whether there is one for every answer is
another matter: a failure that cannot be counted leaves the answer without its watchdog. -/

namespace DeviceAuth

namespace Keeper

variable {keeper other : Keeper} {settings : Settings}

theorem phase_settle_ne (settings : Settings) (now : UInt32) (keeper : Keeper) :
    (keeper.settle settings now).phase ≠ .refreshInProgress := by
  unfold settle
  dsimp only
  split
  · split <;> nofun
  · nofun

theorem phase_hold_ne (settings : Settings) (now : UInt32) (record : TokenRecord)
    (keeper : Keeper) : (keeper.hold settings now record).phase ≠ .refreshInProgress :=
  phase_settle_ne settings now _

theorem phase_replace_ne (settings : Settings) (now : UInt32) (record : TokenRecord)
    (keeper : Keeper) : (keeper.replace settings now record).phase ≠ .refreshInProgress :=
  phase_settle_ne settings now _

def watchdogs (keeper : Keeper) : List Task := keeper.tasks.filter fun task => task.duty.isWatch

def IsWatched (keeper : Keeper) : Prop :=
  keeper.phase = .refreshInProgress ∧ keeper.watchdog ≠ none

/-- A keeper whose tasks are tidy and whose watchdog fits what it is doing. -/
structure Sound (settings : Settings) (keeper : Keeper) : Prop where
  tidy : keeper.Tidy
  watches : ∀ id, keeper.watchdog = some id → keeper.phase = .refreshInProgress ∧
    ⟨id, .watch keeper.generation settings.responseTimeout⟩ ∈ keeper.tasks

namespace Sound

theorem create (settings : Settings) : (Keeper.create settings).Sound settings where
  tidy := Tidy.create settings
  watches := nofun

theorem of_unwatched (tidy : keeper.Tidy) (watchdog : keeper.watchdog = none) :
    keeper.Sound settings where
  tidy := tidy
  watches id remembered := by
    rw [watchdog] at remembered
    cases remembered

theorem of_kept (sound : keeper.Sound settings) (tidy : other.Tidy)
    (phase : other.phase = keeper.phase) (generation : other.generation = keeper.generation)
    (watchdog : other.watchdog = keeper.watchdog)
    (kept : ∀ task ∈ keeper.tasks, task.duty.isWatch = true → task ∈ other.tasks) :
    other.Sound settings where
  tidy := tidy
  watches id remembered := by
    obtain ⟨refreshing, member⟩ := sound.watches id (watchdog ▸ remembered)
    rw [phase, generation]
    exact ⟨refreshing, kept _ member rfl⟩

theorem of_same (sound : keeper.Sound settings) (tasks : other.tasks = keeper.tasks)
    (next : other.nextTask = keeper.nextTask) (timer : other.timer = keeper.timer)
    (watchdog : other.watchdog = keeper.watchdog) (phase : other.phase = keeper.phase)
    (generation : other.generation = keeper.generation) : other.Sound settings :=
  sound.of_kept (sound.tidy.of_same tasks next timer watchdog) phase generation watchdog
    (fun _ member _ => tasks ▸ member)

theorem isAwaited_of_mem (sound : keeper.Sound settings) {id : Nat} {generation : UInt64}
    {limit : Span} (member : ⟨id, .watch generation limit⟩ ∈ keeper.tasks) :
    keeper.IsAwaited generation ∧ limit = settings.responseTimeout := by
  have remembered := sound.tidy.watchdog_of_isWatch _ member rfl
  obtain ⟨refreshing, watching⟩ := sound.watches id remembered
  have equal := sound.tidy.eq_of_id watching member rfl
  simp only [Task.mk.injEq, Duty.watch.injEq] at equal
  exact ⟨⟨equal.2.1, refreshing⟩, equal.2.2.symm⟩

theorem mem_of_isWatched (sound : keeper.Sound settings) (watched : keeper.IsWatched) :
    ∃ id, keeper.watchdog = some id ∧
      ⟨id, .watch keeper.generation settings.responseTimeout⟩ ∈ keeper.tasks := by
  obtain ⟨id, remembered⟩ := Option.ne_none_iff_exists'.mp watched.2
  exact ⟨id, remembered, (sound.watches id remembered).2⟩

theorem watchdogs_of_isWatched (sound : keeper.Sound settings) (watched : keeper.IsWatched) :
    ∃ id, keeper.watchdogs = [⟨id, .watch keeper.generation settings.responseTimeout⟩] := by
  rcases sound.mem_of_isWatched watched with ⟨id, remembered, member⟩
  refine ⟨id, sound.tidy.filter_eq_singleton member rfl fun other others watching => ?_⟩
  have same := sound.tidy.watchdog_of_isWatch other others watching
  exact Option.some.inj (same.symm.trans remembered)

theorem refreshing_of_watchdogs (sound : keeper.Sound settings)
    (watching : keeper.watchdogs ≠ []) : keeper.phase = .refreshInProgress := by
  rcases List.exists_mem_of_ne_nil _ watching with ⟨task, member⟩
  rw [watchdogs, List.mem_filter] at member
  exact (sound.watches _ (sound.tidy.watchdog_of_isWatch task member.1 member.2)).1

/-! ## Changes -/

theorem endTask (sound : keeper.Sound settings) {task : Task} (member : task ∈ keeper.tasks)
    (duty : task.duty.isWatch = false) : (keeper.endTask task.id).Sound settings := by
  refine sound.of_kept (sound.tidy.endTask task.id) rfl rfl rfl ?_
  intro watching watchingMember isWatch
  rw [mem_tasks_endTask]
  refine ⟨watchingMember, fun same => ?_⟩
  rw [sound.tidy.eq_of_id watchingMember member same, duty] at isWatch
  cases isWatch

theorem launchRefresh (sound : keeper.Sound settings) : keeper.launchRefresh.Sound settings := by
  refine sound.of_kept sound.tidy.launchRefresh rfl rfl rfl ?_
  intro task member _
  exact (mem_tasks_launch _ _).mpr (.inl member)

theorem timer_ne_of_isWatch (sound : keeper.Sound settings) {task : Task}
    (member : task ∈ keeper.tasks) (isWatch : task.duty.isWatch = true) :
    keeper.timer ≠ some task.id := by
  intro armed
  have isTimer := sound.tidy.isTimer_of_timer task member armed
  cases duty : task.duty <;> simp_all [Duty.isTimer, Duty.isWatch]

theorem cancelTimer (sound : keeper.Sound settings) : keeper.cancelTimer.Sound settings := by
  refine sound.of_kept sound.tidy.cancelTimer rfl rfl rfl ?_
  intro task member isWatch
  rw [mem_tasks_cancelTimer]
  exact ⟨member, sound.timer_ne_of_isWatch member isWatch⟩

theorem armTimer (sound : keeper.Sound settings) (delay : Span) :
    (keeper.armTimer delay).Sound settings := by
  refine sound.of_kept (sound.tidy.armTimer delay) rfl rfl rfl ?_
  intro task member isWatch
  rw [mem_tasks_armTimer]
  exact .inl ⟨member, sound.timer_ne_of_isWatch member isWatch⟩

end Sound

end Keeper

end DeviceAuth
