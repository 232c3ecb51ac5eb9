import DeviceAuth.Token.Keeper
import Mathlib.Data.List.Nodup

/-! The tasks of a keeper. They are numbered in the order in which they began, and a
timer or a watchdog that has not ended is the one that the keeper remembers. -/

namespace DeviceAuth

namespace Duty

def isTimer : Duty → Bool
  | .launchAfter _ => true
  | _ => false

def isWatch : Duty → Bool
  | .watch _ _ => true
  | _ => false

theorem eq_launchAfter_of_isTimer {duty : Duty} (isTimer : duty.isTimer = true) :
    ∃ delay, duty = .launchAfter delay := by
  cases duty with
  | launchAfter delay => exact ⟨delay, rfl⟩
  | _ => cases isTimer

theorem isTimer_of_isWatch {duty : Duty} (isWatch : duty.isWatch = true) :
    duty.isTimer = false := by
  cases duty with
  | watch => rfl
  | _ => cases isWatch

theorem eq_refresh_of_not {duty : Duty} (noTimer : duty.isTimer = false)
    (noWatch : duty.isWatch = false) : duty = .refresh := by
  cases duty with
  | refresh => rfl
  | launchAfter => cases noTimer
  | watch => cases noWatch

end Duty

namespace Keeper

variable {keeper other : Keeper}

/-! ## Members after a change -/

@[simp] theorem mem_tasks_endTask (id : Nat) (task : Task) :
    task ∈ (keeper.endTask id).tasks ↔ task ∈ keeper.tasks ∧ task.id ≠ id := by
  simp [endTask]

@[simp] theorem mem_tasks_launch (duty : Duty) (task : Task) :
    task ∈ (keeper.launch duty).tasks ↔
      task ∈ keeper.tasks ∨ task = ⟨keeper.nextTask, duty⟩ := by
  simp [launch]

@[simp] theorem mem_tasks_cancelTimer (task : Task) :
    task ∈ keeper.cancelTimer.tasks ↔
      task ∈ keeper.tasks ∧ keeper.timer ≠ some task.id := by
  simp [cancelTimer]

@[simp] theorem mem_tasks_cancelWatchdog (task : Task) :
    task ∈ keeper.cancelWatchdog.tasks ↔
      task ∈ keeper.tasks ∧ keeper.watchdog ≠ some task.id := by
  simp [cancelWatchdog]

@[simp] theorem mem_tasks_armTimer (delay : Span) (task : Task) :
    task ∈ (keeper.armTimer delay).tasks ↔
      (task ∈ keeper.tasks ∧ keeper.timer ≠ some task.id) ∨
        task = ⟨keeper.nextTask, .launchAfter delay⟩ := by
  show task ∈ (keeper.cancelTimer.launch (.launchAfter delay)).tasks ↔ _
  rw [mem_tasks_launch, mem_tasks_cancelTimer]
  rfl

@[simp] theorem mem_tasks_armWatchdog (generation : UInt64) (limit : Span) (task : Task) :
    task ∈ (keeper.armWatchdog generation limit).tasks ↔
      (task ∈ keeper.tasks ∧ keeper.watchdog ≠ some task.id) ∨
        task = ⟨keeper.nextTask, .watch generation limit⟩ := by
  show task ∈ (keeper.cancelWatchdog.launch (.watch generation limit)).tasks ↔ _
  rw [mem_tasks_launch, mem_tasks_cancelWatchdog]
  rfl

@[simp] theorem mem_tasks_shutdown (task : Task) :
    task ∈ keeper.shutdown.tasks ↔
      task ∈ keeper.tasks ∧ isStoppedByShutdown task.duty = false := by
  simp [shutdown]

/-! ## Tidy keepers -/

/-- Tasks have numbers of their own, and every timer and every watchdog among them is
the one that the keeper remembers. -/
structure Tidy (keeper : Keeper) : Prop where
  numbered : ∀ task ∈ keeper.tasks, task.id < keeper.nextTask
  distinct : (keeper.tasks.map Task.id).Nodup
  timer_of_isTimer : ∀ task ∈ keeper.tasks, task.duty.isTimer = true →
    keeper.timer = some task.id
  watchdog_of_isWatch : ∀ task ∈ keeper.tasks, task.duty.isWatch = true →
    keeper.watchdog = some task.id
  isTimer_of_timer : ∀ task ∈ keeper.tasks, keeper.timer = some task.id →
    task.duty.isTimer = true
  isWatch_of_watchdog : ∀ task ∈ keeper.tasks, keeper.watchdog = some task.id →
    task.duty.isWatch = true
  timer_lt : ∀ id, keeper.timer = some id → id < keeper.nextTask
  watchdog_lt : ∀ id, keeper.watchdog = some id → id < keeper.nextTask

namespace Tidy

theorem create (settings : Settings) : (Keeper.create settings).Tidy where
  numbered task member := by cases member
  distinct := List.nodup_nil
  timer_of_isTimer task member := by cases member
  watchdog_of_isWatch task member := by cases member
  isTimer_of_timer task member := by cases member
  isWatch_of_watchdog task member := by cases member
  timer_lt id armed := by cases armed
  watchdog_lt id armed := by cases armed

theorem of_same (tidy : keeper.Tidy) (tasks : other.tasks = keeper.tasks)
    (next : other.nextTask = keeper.nextTask) (timer : other.timer = keeper.timer)
    (watchdog : other.watchdog = keeper.watchdog) : other.Tidy where
  numbered := by rw [tasks, next]; exact tidy.numbered
  distinct := by rw [tasks]; exact tidy.distinct
  timer_of_isTimer := by rw [tasks, timer]; exact tidy.timer_of_isTimer
  watchdog_of_isWatch := by rw [tasks, watchdog]; exact tidy.watchdog_of_isWatch
  isTimer_of_timer := by rw [tasks, timer]; exact tidy.isTimer_of_timer
  isWatch_of_watchdog := by rw [tasks, watchdog]; exact tidy.isWatch_of_watchdog
  timer_lt := by rw [timer, next]; exact tidy.timer_lt
  watchdog_lt := by rw [watchdog, next]; exact tidy.watchdog_lt

theorem eq_of_id (tidy : keeper.Tidy) {left right : Task} (leftMember : left ∈ keeper.tasks)
    (rightMember : right ∈ keeper.tasks) (same : left.id = right.id) : left = right :=
  List.inj_on_of_nodup_map tidy.distinct leftMember rightMember same

theorem filter_eq_singleton (tidy : keeper.Tidy) {selects : Task → Bool} {task : Task}
    (member : task ∈ keeper.tasks) (selected : selects task = true)
    (only : ∀ other ∈ keeper.tasks, selects other = true → other.id = task.id) :
    keeper.tasks.filter selects = [task] := by
  have distinct : (keeper.tasks.filter selects).Nodup := (tidy.distinct.of_map Task.id).filter _
  by_contra several
  rcases (distinct.ne_singleton_iff _).mp several with none | ⟨other, others, different⟩
  · rw [List.filter_eq_nil_iff] at none
    exact none task member selected
  · rw [List.mem_filter] at others
    exact different (tidy.eq_of_id others.1 member (only other others.1 others.2))

theorem duty?_eq_some_iff (tidy : keeper.Tidy) (id : Nat) (duty : Duty) :
    keeper.duty? id = some duty ↔ ⟨id, duty⟩ ∈ keeper.tasks := by
  constructor
  · intro found
    obtain ⟨task, selected, rfl⟩ := Option.map_eq_some_iff.mp found
    have member := List.mem_of_find?_eq_some selected
    have same : task.id = id := by simpa using List.find?_some selected
    subst same
    exact member
  · intro member
    have present : (keeper.tasks.find? fun task => task.id == id).isSome := by
      rw [List.find?_isSome]
      exact ⟨_, member, by simp⟩
    obtain ⟨task, selected⟩ := Option.isSome_iff_exists.mp present
    have same : task.id = id := by simpa using List.find?_some selected
    have equal := tidy.eq_of_id (List.mem_of_find?_eq_some selected) member same
    rw [duty?, selected, equal]
    rfl

/-! ## Changes of the tasks -/

theorem filter (tidy : keeper.Tidy) (keep : Task → Bool)
    (tasks : other.tasks = keeper.tasks.filter keep)
    (next : other.nextTask = keeper.nextTask)
    (timer : other.timer = keeper.timer ∨ other.timer = none ∧
      ∀ task ∈ other.tasks, task.duty.isTimer = false)
    (watchdog : other.watchdog = keeper.watchdog ∨ other.watchdog = none ∧
      ∀ task ∈ other.tasks, task.duty.isWatch = false) : other.Tidy where
  numbered task member := by
    rw [tasks] at member
    rw [next]
    exact tidy.numbered task (List.mem_of_mem_filter member)
  distinct := by
    rw [tasks]
    exact tidy.distinct.sublist (List.filter_sublist.map Task.id)
  timer_of_isTimer task member isTimer := by
    rcases timer with same | ⟨_, none⟩
    · rw [same]
      exact tidy.timer_of_isTimer task (List.mem_of_mem_filter (tasks ▸ member)) isTimer
    · rw [none task member] at isTimer
      cases isTimer
  watchdog_of_isWatch task member isWatch := by
    rcases watchdog with same | ⟨_, none⟩
    · rw [same]
      exact tidy.watchdog_of_isWatch task (List.mem_of_mem_filter (tasks ▸ member)) isWatch
    · rw [none task member] at isWatch
      cases isWatch
  isTimer_of_timer task member armed := by
    rcases timer with same | ⟨gone, _⟩
    · exact tidy.isTimer_of_timer task (List.mem_of_mem_filter (tasks ▸ member)) (same ▸ armed)
    · rw [gone] at armed
      cases armed
  isWatch_of_watchdog task member armed := by
    rcases watchdog with same | ⟨gone, _⟩
    · exact tidy.isWatch_of_watchdog task (List.mem_of_mem_filter (tasks ▸ member))
        (same ▸ armed)
    · rw [gone] at armed
      cases armed
  timer_lt id armed := by
    rw [next]
    rcases timer with same | ⟨gone, _⟩
    · exact tidy.timer_lt id (same ▸ armed)
    · rw [gone] at armed
      cases armed
  watchdog_lt id armed := by
    rw [next]
    rcases watchdog with same | ⟨gone, _⟩
    · exact tidy.watchdog_lt id (same ▸ armed)
    · rw [gone] at armed
      cases armed

theorem endTask (tidy : keeper.Tidy) (id : Nat) : (keeper.endTask id).Tidy :=
  tidy.filter _ rfl rfl (.inl rfl) (.inl rfl)

theorem isTimer_of_mem_cancelTimer (tidy : keeper.Tidy) (task : Task)
    (member : task ∈ keeper.cancelTimer.tasks) : task.duty.isTimer = false := by
  rw [mem_tasks_cancelTimer] at member
  by_contra isTimer
  exact member.2 (tidy.timer_of_isTimer task member.1 (by simpa using isTimer))

theorem isWatch_of_mem_cancelWatchdog (tidy : keeper.Tidy) (task : Task)
    (member : task ∈ keeper.cancelWatchdog.tasks) : task.duty.isWatch = false := by
  rw [mem_tasks_cancelWatchdog] at member
  by_contra isWatch
  exact member.2 (tidy.watchdog_of_isWatch task member.1 (by simpa using isWatch))

theorem cancelTimer (tidy : keeper.Tidy) : keeper.cancelTimer.Tidy :=
  tidy.filter _ rfl rfl (.inr ⟨rfl, tidy.isTimer_of_mem_cancelTimer⟩) (.inl rfl)

theorem cancelWatchdog (tidy : keeper.Tidy) : keeper.cancelWatchdog.Tidy :=
  tidy.filter _ rfl rfl (.inl rfl) (.inr ⟨rfl, tidy.isWatch_of_mem_cancelWatchdog⟩)

theorem shutdown (tidy : keeper.Tidy) : keeper.shutdown.Tidy := by
  refine tidy.filter _ rfl rfl (.inr ⟨rfl, ?_⟩) (.inr ⟨rfl, ?_⟩)
  · intro task member
    rw [mem_tasks_shutdown] at member
    cases duty : task.duty <;> simp_all [isStoppedByShutdown, Duty.isTimer]
  · intro task member
    rw [mem_tasks_shutdown] at member
    cases duty : task.duty <;> simp_all [isStoppedByShutdown, Duty.isWatch]

theorem launch (tidy : keeper.Tidy) (duty : Duty)
    (noTimer : duty.isTimer = true → ∀ task ∈ keeper.tasks, task.duty.isTimer = false)
    (noWatchdog : duty.isWatch = true → ∀ task ∈ keeper.tasks, task.duty.isWatch = false)
    (tasks : other.tasks = keeper.tasks ++ [⟨keeper.nextTask, duty⟩])
    (next : other.nextTask = keeper.nextTask + 1)
    (timer : other.timer = if duty.isTimer then some keeper.nextTask else keeper.timer)
    (watchdog : other.watchdog =
      if duty.isWatch then some keeper.nextTask else keeper.watchdog) : other.Tidy := by
  have members : ∀ task, task ∈ other.tasks ↔
      task ∈ keeper.tasks ∨ task = ⟨keeper.nextTask, duty⟩ := by
    intro task
    rw [tasks]
    simp
  constructor
  case numbered =>
    intro task member
    rw [next]
    rcases (members task).mp member with old | rfl
    · exact Nat.lt_succ_of_lt (tidy.numbered task old)
    · exact Nat.lt_succ_self _
  case distinct =>
    rw [tasks, List.map_append, List.map_singleton]
    refine List.nodup_append.mpr ⟨tidy.distinct, List.nodup_singleton _, ?_⟩
    intro id old new fresh
    obtain ⟨task, member, rfl⟩ := List.mem_map.mp old
    have bound := tidy.numbered task member
    have number : new = keeper.nextTask := List.mem_singleton.mp fresh
    omega
  case timer_of_isTimer =>
    intro task member isTimer
    rcases (members task).mp member with old | rfl
    · have keeps : duty.isTimer = false := by
        by_contra begun
        rw [noTimer (by simpa using begun) task old] at isTimer
        cases isTimer
      rw [timer, keeps]
      exact tidy.timer_of_isTimer task old isTimer
    · rw [timer, if_pos isTimer]
  case watchdog_of_isWatch =>
    intro task member isWatch
    rcases (members task).mp member with old | rfl
    · have keeps : duty.isWatch = false := by
        by_contra begun
        rw [noWatchdog (by simpa using begun) task old] at isWatch
        cases isWatch
      rw [watchdog, keeps]
      exact tidy.watchdog_of_isWatch task old isWatch
    · rw [watchdog, if_pos isWatch]
  case isTimer_of_timer =>
    intro task member armed
    rw [timer] at armed
    split at armed
    next begun =>
      rcases (members task).mp member with old | rfl
      · have bound := tidy.numbered task old
        have number := Option.some.inj armed
        omega
      · exact begun
    next =>
      rcases (members task).mp member with old | rfl
      · exact tidy.isTimer_of_timer task old armed
      · exact absurd (tidy.timer_lt _ armed) (Nat.lt_irrefl _)
  case isWatch_of_watchdog =>
    intro task member armed
    rw [watchdog] at armed
    split at armed
    next begun =>
      rcases (members task).mp member with old | rfl
      · have bound := tidy.numbered task old
        have number := Option.some.inj armed
        omega
      · exact begun
    next =>
      rcases (members task).mp member with old | rfl
      · exact tidy.isWatch_of_watchdog task old armed
      · exact absurd (tidy.watchdog_lt _ armed) (Nat.lt_irrefl _)
  case timer_lt =>
    intro id armed
    rw [timer] at armed
    rw [next]
    split at armed
    next => exact Option.some.inj armed ▸ Nat.lt_succ_self _
    next => exact Nat.lt_succ_of_lt (tidy.timer_lt id armed)
  case watchdog_lt =>
    intro id armed
    rw [watchdog] at armed
    rw [next]
    split at armed
    next => exact Option.some.inj armed ▸ Nat.lt_succ_self _
    next => exact Nat.lt_succ_of_lt (tidy.watchdog_lt id armed)

theorem launchRefresh (tidy : keeper.Tidy) : keeper.launchRefresh.Tidy :=
  tidy.launch .refresh nofun nofun rfl rfl rfl rfl

theorem armTimer (tidy : keeper.Tidy) (delay : Span) : (keeper.armTimer delay).Tidy :=
  tidy.cancelTimer.launch (.launchAfter delay) (fun _ => tidy.isTimer_of_mem_cancelTimer)
    nofun rfl rfl rfl rfl

theorem armWatchdog (tidy : keeper.Tidy) (generation : UInt64) (limit : Span) :
    (keeper.armWatchdog generation limit).Tidy :=
  tidy.cancelWatchdog.launch (.watch generation limit) nofun
    (fun _ => tidy.isWatch_of_mem_cancelWatchdog) rfl rfl rfl rfl

end Tidy

/-! ## Timers -/

def timers (keeper : Keeper) : List Task := keeper.tasks.filter fun task => task.duty.isTimer

theorem Tidy.timers_eq (tidy : keeper.Tidy) :
    keeper.timers = [] ∨
      ∃ id delay, keeper.timer = some id ∧ keeper.timers = [⟨id, .launchAfter delay⟩] := by
  by_cases none : keeper.timers = []
  case pos => exact .inl none
  case neg =>
    rcases List.exists_mem_of_ne_nil _ none with ⟨⟨id, duty⟩, member⟩
    rcases List.mem_filter.mp member with ⟨present, isTimer⟩
    have remembered := tidy.timer_of_isTimer _ present isTimer
    rcases Duty.eq_launchAfter_of_isTimer isTimer with ⟨delay, rfl⟩
    refine .inr ⟨id, delay, remembered, tidy.filter_eq_singleton present isTimer ?_⟩
    intro other others timed
    exact Option.some.inj ((tidy.timer_of_isTimer other others timed).symm.trans remembered)

end Keeper

end DeviceAuth
