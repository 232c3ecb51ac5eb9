import DeviceAuth.Proofs.Activity.Retries

/-! Quiet moves: those that neither bring a token nor take one away, and leave the store to
the device. Timers and watchdogs go off, refreshes are sent and fail. The token stays what it
is, unless so many refreshes have failed that it is given up, which is told. -/

namespace DeviceAuth

def AuthEvent.isStored : AuthEvent → Bool
  | .tokenStored _ => true
  | _ => false

def AuthEvent.sinceStored (events : List AuthEvent) : List AuthEvent :=
  (events.reverse.takeWhile fun event => !event.isStored).reverse

theorem AuthEvent.sinceStored_append {told : List AuthEvent}
    (other : ∀ event ∈ told, event.isStored = false) (events : List AuthEvent) :
    sinceStored (events ++ told) = sinceStored events ++ told := by
  have all : ∀ event ∈ told.reverse, (!event.isStored) = true := by
    intro event member
    simp [other event (List.mem_reverse.mp member)]
  simp only [sinceStored, List.reverse_append, List.takeWhile_append_of_pos all,
    List.reverse_reverse]

theorem AuthEvent.isStored_reports {limit attempt : Nat} {reason : String} :
    ∀ event ∈ AuthEvent.reports limit attempt reason, event.isStored = false := by
  intro event member
  unfold AuthEvent.reports at member
  split at member
  · simp only [List.mem_cons, List.not_mem_nil, or_false] at member
    rcases member with rfl | rfl
    · rfl
    · rfl
  · rw [List.mem_singleton.mp member]
    rfl

def Move.IsQuiet {σ : Type} : Move σ → Prop
  | .surroundings _ _ _ => False
  | .load => False
  | .hold _ _ => False
  | .answer _ => False
  | .clear => False
  | .shutdown => False
  | _ => True

namespace Keeper

variable {keeper middle after : Keeper} {settings : Settings}

/-- A keeper holds what it held before, or has told that it gave up; and it has not told of
a token that was stored. -/
def Retains (keeper after : Keeper) : Prop :=
  ∃ told, after.events = keeper.events ++ told ∧ (∀ event ∈ told, event.isStored = false) ∧
    (after.record = keeper.record ∨
      after.record = none ∧ ∃ attempts, .refreshExhausted attempts ∈ told)

theorem Retains.of_same (record : after.record = keeper.record)
    (events : after.events = keeper.events) : keeper.Retains after :=
  ⟨[], by rw [events, List.append_nil], nofun, .inl record⟩

theorem Retains.emit {event : AuthEvent} (other : event.isStored = false)
    (record : after.record = keeper.record) (events : after.events = keeper.events) :
    keeper.Retains (after.emit event) := by
  refine ⟨[event], congrArg (· ++ [event]) events, ?_, .inl record⟩
  intro told member
  rw [List.mem_singleton.mp member]
  exact other

theorem retains_failRefresh (settings : Settings) (now : UInt32) (generation : UInt64)
    (reason : String) (random : Octets) (keeper : Keeper) :
    keeper.Retains (keeper.failRefresh settings now generation reason random).2.1 := by
  by_cases awaited : keeper.IsAwaited generation
  case neg =>
    rw [failRefresh_of_not settings now reason random awaited]
    exact .of_same rfl rfl
  case pos =>
    by_cases full : keeper.IsFull
    case pos =>
      rw [failRefresh_of_isFull now reason random awaited full]
      exact .of_same rfl rfl
    case neg =>
      have raised : keeper.CountRaised settings random reason _ :=
        countRaised_failRefresh now reason random awaited full
      refine ⟨_, raised.told, AuthEvent.isStored_reports, ?_⟩
      by_cases few : keeper.retries.toNat + 1 ≤ settings.refreshRetries
      · exact .inl (raised.again few).1
      · have many := Nat.not_le.mp few
        rw [AuthEvent.reports_of_lt reason many]
        exact .inr ⟨(raised.givenUp many).1, keeper.retries.toNat + 1, by simp⟩

theorem retains_schedule (settings : Settings) (now : UInt32) (keeper : Keeper) :
    keeper.Retains (keeper.schedule settings now).2 := by
  obtain ⟨_, _, _, equal⟩ := schedule_keeps settings now keeper
  rw [equal]
  exact .of_same rfl rfl

theorem retains_abandonRefresh (settings : Settings) (now : UInt32) (generation : UInt64)
    (keeper : Keeper) : keeper.Retains (keeper.abandonRefresh settings now generation) := by
  unfold abandonRefresh settleAbandoned
  split
  · exact .of_same rfl rfl
  · exact .of_same rfl rfl

end Keeper

theorem Standing.Passes.store_eq {σ : Type} [Backend σ] {settings : Settings}
    {address : Address} {before after : Standing σ} {move : Move σ}
    (passes : Passes settings address before move after) (quiet : move.IsQuiet) :
    after.store = before.store := by
  cases passes with
  | same => rfl
  | judge => rfl
  | giveUp => rfl
  | request => rfl
  | _ => exact quiet.elim

namespace Activity

variable {σ : Type} {activity : Activity σ}

theorem retains_takeFlag : activity.keeper.Retains activity.takeFlag.keeper := by
  rcases activity.takeFlag_cases with ⟨_, same⟩ | ⟨taken, free, began⟩
  · rw [same]
    exact .of_same rfl rfl
  · obtain ⟨_, rfl⟩ := Keeper.takeFlag?_some free
    rw [began]
    exact .of_same rfl rfl

theorem retains_enter (call : Nat) :
    activity.keeper.Retains (activity.enter call).keeper := by
  rcases activity.enter_cases call with ⟨refused, _⟩ | ⟨_, _, keeper, request, entered⟩
  · rw [refused]
    exact .of_same rfl rfl
  · obtain ⟨_, _, _, _, _, rfl⟩ := Keeper.enterRefresh_ok request
    rw [entered]
    exact .of_same rfl rfl

variable [Backend σ]

theorem retains_step {move : Move σ} (quiet : move.IsQuiet) :
    activity.keeper.Retains (activity.step move).keeper := by
  cases move with
  | surroundings now random store => exact quiet.elim
  | load => exact quiet.elim
  | hold token lifetime => exact quiet.elim
  | answer message => exact quiet.elim
  | clear => exact quiet.elim
  | shutdown => exact quiet.elim
  | connect => exact .of_same rfl rfl
  | schedule => exact Keeper.retains_schedule _ _ _
  | allow enabled => exact .of_same rfl rfl
  | confirm => exact .emit rfl rfl rfl
  | deny message => exact .emit rfl rfl rfl
  | refresh => exact retains_takeFlag
  | begin task =>
      simp only [step]
      split
      next => exact (activity.onKeeper (Keeper.endTask task)).retains_takeFlag
      next => exact .of_same rfl rfl
  | wake task =>
      simp only [step, onDevice, Device.wakeTask]
      split
      next => exact .of_same rfl rfl
      next generation _ _ =>
        exact Keeper.retains_failRefresh _ _ generation _ _ (activity.keeper.endTask task)
      next => exact .of_same rfl rfl
  | expire task =>
      simp only [step]
      split
      next => exact .of_same rfl rfl
      next => exact .of_same rfl rfl
  | enter call =>
      simp only [step]
      split
      next => exact retains_enter call
      next => exact .of_same rfl rfl
  | release call =>
      simp only [step]
      split
      next => exact .of_same rfl rfl
      next => exact .of_same rfl rfl
  | sent call result =>
      simp only [step]
      split
      all_goals exact .of_same rfl rfl
  | report call =>
      simp only [step]
      split
      next generation reason _ => exact Keeper.retains_failRefresh _ _ generation reason _ _
      next => exact .of_same rfl rfl
  | drop call lockFree =>
      simp only [step]
      split
      next => exact .of_same rfl rfl
      next generation _ =>
        split
        next => exact Keeper.retains_abandonRefresh _ _ generation _
        next => exact .of_same rfl rfl
      next => exact .of_same rfl rfl
      next => exact .of_same rfl rfl
  | arrange call =>
      simp only [step]
      split
      next => exact Keeper.retains_schedule _ _ _
      next => exact .of_same rfl rfl

theorem store_step {move : Move σ} (quiet : move.IsQuiet) :
    (activity.step move).device.store = activity.device.store :=
  (step_goes move activity).store_eq quiet

end Activity

end DeviceAuth
