import DeviceAuth.Proofs.Activity.Operations
import DeviceAuth.Proofs.Activity.Timers

/-! Devices that may not refresh their token by themselves. Once automatic refreshes are switched
off, no timer is set and no refresh is launched, so that a request belongs to a caller or to a
refresh that was launched before. What does not ask whether automatic refreshes are allowed is a
failure: it sets the timer for another attempt. -/

namespace DeviceAuth

/-! ## The switch -/

namespace Keeper

variable {keeper : Keeper} {settings : Settings}

theorem autoRefresh_schedule (settings : Settings) (now : UInt32) (keeper : Keeper) :
    (keeper.schedule settings now).2.autoRefresh = keeper.autoRefresh := by
  obtain ⟨_, _, _, equal⟩ := schedule_keeps settings now keeper
  rw [equal]

theorem autoRefresh_failRefresh (settings : Settings) (now : UInt32) (generation : UInt64)
    (reason : String) (random : Octets) (keeper : Keeper) :
    (keeper.failRefresh settings now generation reason random).2.1.autoRefresh =
      keeper.autoRefresh := by
  by_cases awaited : keeper.IsAwaited generation
  · have fails := failRefresh_failsTo settings now reason random awaited
    generalize keeper.failRefresh settings now generation reason random = answer at fails ⊢
    cases fails
    all_goals rfl
  · rw [failRefresh_of_not settings now reason random awaited]

theorem autoRefresh_abandonRefresh (settings : Settings) (now : UInt32) (generation : UInt64)
    (keeper : Keeper) :
    (keeper.abandonRefresh settings now generation).autoRefresh = keeper.autoRefresh := by
  unfold abandonRefresh settleAbandoned
  split
  all_goals rfl

end Keeper

namespace Activity

variable {σ : Type} [Backend σ] {activity : Activity σ} {move : Move σ}

omit [Backend σ] in
theorem autoRefresh_takeFlag (activity : Activity σ) :
    activity.takeFlag.keeper.autoRefresh = activity.keeper.autoRefresh := by
  rcases activity.takeFlag_cases with ⟨_, same⟩ | ⟨_, free, began⟩
  · rw [same]
  · rcases Keeper.takeFlag?_some free with ⟨_, rfl⟩
    rw [began]
    rfl

theorem autoRefresh_load (device : Device σ) :
    device.takeStored.2.keeper.autoRefresh = device.keeper.autoRefresh := by
  by_cases uninitialized : device.keeper.phase = .uninitialized
  · rcases Device.takeStored_cases uninitialized with ⟨_, _, taken⟩ | ⟨stored, _, taken⟩
    · rw [taken]
    · rw [taken]
      cases stored
      all_goals rfl
  · rw [Device.takeStored_of_initialized uninitialized]

theorem autoRefresh_hold (token : String) (lifetime : UInt32) (device : Device σ) :
    (device.holdToken token lifetime).2.keeper.autoRefresh = device.keeper.autoRefresh := by
  rcases device.holdToken_cases token lifetime with ⟨_, _, held⟩ | ⟨_, _, _, held⟩
  · rw [held]
  · rw [held]
    rfl

theorem autoRefresh_answer (message : String) (device : Device σ) :
    (device.applyAnswer message).2.keeper.autoRefresh = device.keeper.autoRefresh := by
  rcases device.applyAnswer_cases message with
    ⟨_, refused⟩ | ⟨_, ⟨_, _, applied⟩ | ⟨_, _, _, _, applied⟩ | ⟨_, _, _, _, applied⟩⟩
  · rw [refused]
  all_goals
    rw [applied]
    rfl

omit [Backend σ] in
theorem autoRefresh_enter (call : Nat) (activity : Activity σ) :
    (activity.enter call).keeper.autoRefresh = activity.keeper.autoRefresh := by
  rcases activity.enter_cases call with ⟨refused, _⟩ | ⟨_, _, _, request, entered⟩
  · rw [refused]
    rfl
  · rcases Keeper.enterRefresh_ok request with ⟨_, _, _, _, _, rfl⟩
    rw [entered]
    rfl

theorem autoRefresh_step (other : ∀ enabled, move ≠ .allow enabled) (activity : Activity σ) :
    (activity.step move).keeper.autoRefresh = activity.keeper.autoRefresh := by
  cases move with
  | allow enabled => exact absurd rfl (other enabled)
  | load =>
      simp only [step, keeper_goOn]
      exact autoRefresh_load _
  | hold token lifetime =>
      simp only [step, keeper_goOn]
      exact autoRefresh_hold token lifetime _
  | schedule => exact Keeper.autoRefresh_schedule _ _ _
  | answer message =>
      simp only [step, keeper_goOn]
      exact autoRefresh_answer message _
  | refresh => exact autoRefresh_takeFlag _
  | begin task =>
      simp only [step]
      split
      next => exact autoRefresh_takeFlag _
      next => rfl
  | wake task =>
      simp only [step, onDevice, Device.wakeTask]
      split
      next => rfl
      next => exact Keeper.autoRefresh_failRefresh _ _ _ _ _ _
      next => rfl
  | enter call =>
      simp only [step]
      split
      next => exact autoRefresh_enter call _
      next => rfl
  | report call =>
      simp only [step]
      split
      next => exact Keeper.autoRefresh_failRefresh _ _ _ _ _ _
      next => rfl
  | drop call lockFree =>
      simp only [step]
      split
      next => rfl
      next =>
        split
        next => exact Keeper.autoRefresh_abandonRefresh _ _ _ _
        next => rfl
      next => rfl
      next => rfl
  | arrange call =>
      simp only [step]
      split
      next => exact Keeper.autoRefresh_schedule _ _ _
      next => rfl
  | expire => simp only [step]; split <;> rfl
  | release => simp only [step]; split <;> rfl
  | sent => simp only [step]; split <;> rfl
  | _ => rfl

theorem off_step (off : activity.keeper.autoRefresh = false) (never : move ≠ .allow true) :
    (activity.step move).keeper.autoRefresh = false := by
  by_cases switch : ∃ enabled, move = .allow enabled
  · rcases switch with ⟨enabled, rfl⟩
    cases enabled with
    | false => rfl
    | true => exact absurd rfl never
  · rw [autoRefresh_step (by simpa using switch)]
    exact off

theorem off_run {moves : List (Move σ)} (off : activity.keeper.autoRefresh = false)
    (never : ∀ move ∈ moves, move ≠ .allow true) :
    (activity.run moves).keeper.autoRefresh = false :=
  run_preserves (fun activity => activity.keeper.autoRefresh = false)
    (fun move member _ off => off_step off (never move member)) activity off

/-! ## Tasks while refreshes are switched off -/

def Retries (activity : Activity σ) (move : Move σ) : Prop :=
  ∃ attempt, activity.Fails move attempt ∧ attempt ≤ activity.device.settings.refreshRetries

theorem not_retries_of_events
    (same : (activity.step move).keeper.events = activity.keeper.events) :
    ¬ activity.Retries move := by
  rintro ⟨attempt, ⟨reason, told, equal⟩, _⟩
  simp [same] at equal

omit [Backend σ] in
theorem old_of_origin {keeper after : Keeper} {task : Task} (off : keeper.autoRefresh = false)
    (untimed : ∀ task ∈ keeper.tasks, task.duty.isTimer = false)
    (origin : Keeper.Origin keeper after task) :
    task ∈ keeper.tasks ∨ task.duty.isWatch = true := by
  cases origin with
  | kept member => exact .inl member
  | fired member isTimer => simp [untimed _ member] at isTimer
  | watches isWatch => exact .inr isWatch
  | arranged allowed => simp [off] at allowed

-- The failure may be that of a watchdog that has ended, so `keeper` need not be the activity's.
theorem old_of_failRefresh {keeper : Keeper} {generation : UInt64} {reason : String}
    {random : Octets} {now : UInt32} (tidy : keeper.Tidy) (off : keeper.autoRefresh = false)
    (untimed : ∀ task ∈ keeper.tasks, task.duty.isTimer = false)
    (same : keeper.account = activity.keeper.account)
    (failed : (activity.step move).keeper =
      (keeper.failRefresh activity.device.settings now generation reason random).2.1)
    (final : ¬ activity.Retries move) {task : Task}
    (member : task ∈ (activity.step move).keeper.tasks) :
    task ∈ keeper.tasks ∨ task.duty.isWatch = true := by
  rw [failed] at member
  rcases Keeper.origin_failRefresh tidy now generation reason random member with
    origin | ⟨awaited, countable, few, _, _⟩
  case inl => exact old_of_origin off untimed origin
  case inr =>
    -- Another attempt is told of, which is what `final` excludes.
    have raised : keeper.CountRaised activity.device.settings random reason
        (activity.step move).keeper :=
      failed ▸ Keeper.countRaised_failRefresh now reason _ awaited countable
    have told := raised.told
    simp only [Keeper.account, Prod.mk.injEq] at same
    rw [AuthEvent.reports_of_le reason few, same.2.2.2] at told
    exact absurd ⟨keeper.retries.toNat + 1, ⟨reason, [], told⟩, few⟩ final

/-- Only watchdogs begin where there is no timer, unless a failed refresh will be tried again. -/
theorem old_of_step (tidy : activity.keeper.Tidy) (off : activity.keeper.autoRefresh = false)
    (untimed : ∀ task ∈ activity.keeper.tasks, task.duty.isTimer = false)
    (final : ¬ activity.Retries move) {task : Task}
    (member : task ∈ (activity.step move).keeper.tasks) :
    task ∈ activity.keeper.tasks ∨ task.duty.isWatch = true := by
  cases (activity.step_effect move).2 with
  | change change kept =>
      rw [kept] at member
      exact old_of_origin off untimed (change.origin tidy member)
  | take change taken =>
      rw [(Keeper.takeFlag?_some taken).2] at member
      exact old_of_origin off untimed (change.origin tidy member)
  | fail _ failed => exact old_of_failRefresh tidy off untimed rfl failed final member
  | @lapse id _ _ _ _ failed =>
      have ended : ∀ task ∈ (activity.keeper.endTask id).tasks, task.duty.isTimer = false :=
        fun task old => untimed task ((Keeper.mem_tasks_endTask _ _).mp old).1
      have old := old_of_failRefresh (tidy.endTask id) off ended rfl failed final member
      exact old.imp_left fun old => ((Keeper.mem_tasks_endTask _ _).mp old).1
  | expire _ _ ended =>
      rw [ended] at member
      exact .inl ((Keeper.mem_tasks_endTask _ _).mp member).1

/-- Automatic refreshes are switched off, no timer is set, and the refreshes that were launched
but have not begun are from before. -/
structure StaysOff (before activity : Activity σ) : Prop where
  attended : activity.Attended
  off : activity.keeper.autoRefresh = false
  untimed : ∀ task ∈ activity.keeper.tasks, task.duty.isTimer = false
  launched : ∀ task ∈ activity.keeper.tasks, task.duty = .refresh → task ∈ before.keeper.tasks

theorem StaysOff.step {before : Activity σ} (stays : before.StaysOff activity)
    (never : move ≠ .allow true) (final : ¬ activity.Retries move) :
    before.StaysOff (activity.step move) where
  attended := stays.attended.step move
  off := off_step stays.off never
  untimed task member := by
    rcases old_of_step stays.attended.owned.tidy stays.off stays.untimed final member with
      old | isWatch
    · exact stays.untimed task old
    · exact Duty.isTimer_of_isWatch isWatch
  launched task member refreshes := by
    rcases old_of_step stays.attended.owned.tidy stays.off stays.untimed final member with
      old | isWatch
    · exact stays.launched task old refreshes
    · simp [refreshes, Duty.isWatch] at isWatch

theorem StaysOff.run {before : Activity σ} {moves : List (Move σ)}
    (stays : before.StaysOff activity) (never : ∀ move ∈ moves, move ≠ .allow true)
    (final : activity.Without Retries moves) : before.StaysOff (activity.run moves) := by
  induction moves generalizing activity with
  | nil => exact stays
  | cons move rest induction =>
      exact induction (stays.step (never move (.head rest)) final.1)
        (fun later member => never later (.tail move member)) final.2

theorem staysOff_arrange {call : Nat} (attended : activity.Attended)
    (off : activity.keeper.autoRefresh = false)
    (scheduling : activity.calls call = some .scheduling) :
    (activity.step (.arrange call)).StaysOff (activity.step (.arrange call)) := by
  have cancelled : (activity.step (.arrange call)).keeper = activity.keeper.cancelTimer := by
    rw [show (activity.step (.arrange call)).keeper = activity.device.schedule.2.keeper from
      congrArg Device.keeper (step_arrange scheduling)]
    exact congrArg Prod.snd (Keeper.schedule_disabled off)
  constructor
  case attended => exact attended.step _
  case off => exact off_step off nofun
  case untimed =>
    rw [cancelled]
    exact attended.owned.tidy.isTimer_of_mem_cancelTimer
  case launched => exact fun _ member _ => member

/-- Automatic refreshes are switched off by one who then arranges for no refresh and returns. From
then on, until they are switched on, no timer is set as long as no failed refresh will be
tried again. A request belongs to a refresh that had begun before, or to one that a caller
begins, or to one that had been launched before. -/
theorem switchedOff_run (settings : Settings) (address : Address) (now : UInt32)
    (random : Octets) (store : σ) (before between after : List (Move σ)) :
    let asked := (start settings address now random store).run before
    let switched := asked.run (.allow false :: between)
    let returned := switched.step (.arrange asked.nextCall)
    switched.calls asked.nextCall = some .scheduling →
    (∀ move ∈ between ++ after, move ≠ .allow true) →
    (returned.Without Retries after → (returned.run after).keeper.timers = []) ∧
    ∀ call generation, (returned.run after).Requests generation call →
      returned.calls call = some .entering ∨
      ∃ first move last, after = first ++ move :: last ∧ (returned.run first).nextCall = call ∧
        (move = .refresh ∨ ∃ task, move = .begin task ∧ (returned.Without Retries first →
          returned.keeper.duty? task = some .refresh)) := by
  intro asked switched returned scheduling never
  have attended : switched.Attended :=
    (attended_run settings address now random store before).run (.allow false :: between)
  have off : switched.keeper.autoRefresh = false := by
    have refused : (asked.step (.allow false)).keeper.autoRefresh = false := rfl
    have stays : ((asked.step (.allow false)).run between).keeper.autoRefresh = false :=
      off_run refused fun move member => never move (List.mem_append_left after member)
    exact stays
  have stays : returned.StaysOff returned := staysOff_arrange attended off scheduling
  constructor
  · intro final
    have later := stays.run (fun move member => never move (List.mem_append_right _ member)) final
    exact List.filter_eq_nil_iff.mpr fun task member => by simp [later.untimed task member]
  · intro call generation requests
    rcases entering_of_run requests.1 with old | ⟨first, move, last, split, number, begins⟩
    · exact .inl old
    · refine .inr ⟨first, move, last, split, number, ?_⟩
      cases begins with
      | called => exact .inl rfl
      | @launched task waits =>
          -- Nothing is launched any more: the refresh that begins has been waiting since then.
          refine .inr ⟨task, rfl, fun final => ?_⟩
          have later := stays.run (fun move member => never move ?_) final
          · have launched := (later.attended.owned.tidy.duty?_eq_some_iff _ _).mp waits
            exact (stays.attended.owned.tidy.duty?_eq_some_iff _ _).mpr
              (later.launched _ launched rfl)
          · rw [split]
            exact List.mem_append_right _ (List.mem_append_left _ member)

def waitForTimer : List (Move Memory) :=
  [.load, .connect, .hold "abcdefghijklmnop" 3600, .arrange 0]

theorem switchedOff_waitForTimer :
    let asked := sample.run waitForTimer
    let returned := (asked.run [.allow false]).step (.arrange asked.nextCall)
    asked.keeper.timers ≠ [] ∧ (asked.run [.allow false]).calls asked.nextCall = some .scheduling ∧
      returned.Without Retries [.schedule, .refresh] ∧
      (returned.run [.schedule, .refresh]).keeper.timers = [] ∧
      (returned.run [.schedule, .refresh]).Requests 1 2 ∧
      ∃ first move last, [.schedule, .refresh] = first ++ move :: last ∧
        (returned.run first).nextCall = 2 ∧ (move = .refresh ∨ ∃ task, move = .begin task ∧
          (returned.Without Retries first → returned.keeper.duty? task = some .refresh)) := by
  intro asked returned
  have timed : asked.keeper.timers ≠ [] := by decide +kernel
  have scheduling : (asked.run [.allow false]).calls asked.nextCall = some .scheduling := by
    decide +kernel
  have final : returned.Without Retries [.schedule, .refresh] := by
    refine ⟨not_retries_of_events ?_, not_retries_of_events ?_, trivial⟩
    all_goals decide +kernel
  have requests : (returned.run [.schedule, .refresh]).Requests 1 2 := by
    rw [requests_iff]
    decide +kernel
  have idle : returned.calls 2 ≠ some .entering := by decide +kernel
  have never : ∀ move ∈ ([] ++ [.schedule, .refresh] : List (Move Memory)), move ≠ .allow true := by
    simp
  have off := switchedOff_run {} ⟨List.replicate 6 0, rfl⟩ 1000 [] ({} : Memory) waitForTimer []
    [.schedule, .refresh] scheduling never
  exact ⟨timed, scheduling, final, off.1 final, requests,
    (off.2 2 1 requests).resolve_left idle⟩

/-- A request has been sent when automatic refreshes are switched off. It is not answered in time,
which sets the timer, and the timer launches another refresh, although nobody has asked for
it. -/
theorem not_switchedOff_goUnanswered :
    let switched := sample.run (goUnanswered ++ [.allow false])
    let returned := switched.step (.arrange 2)
    switched.calls 2 = some .scheduling ∧ returned.keeper.timers = [] ∧
      returned.keeper.nextTask = 2 ∧ returned.nextCall = 3 ∧
      (returned.run [.wake 1]).keeper.autoRefresh = false ∧
      (returned.run [.wake 1]).keeper.timers ≠ [] ∧
      (returned.run [.wake 1, .wake 2, .begin 3]).Requests 2 3 := by
  simp only [requests_iff]
  decide +kernel

end Activity

end DeviceAuth
