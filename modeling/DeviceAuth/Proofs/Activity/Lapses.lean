import DeviceAuth.Proofs.Activity.Flag
import DeviceAuth.Proofs.Keeper.Arranged
import Mathlib.Data.List.Induction

/-! How a token can be left without a refresh. A timer ends when it launches a refresh,
and a refresh that finds the flag taken gives up; whoever has the flag then has to see to
the next refresh. All operations do, but a few of them can come to nothing, most of all
a refresh whose caller goes away. Here these are listed, and shown to be the only
ones. -/

namespace DeviceAuth

namespace Activity

variable {σ : Type} {activity : Activity σ}

/-- A call still has to go on to arrange for a refresh, to make a request or to be
refused. -/
def IsPending (activity : Activity σ) : Prop :=
  activity.HoldsFlag ∨ ∃ call, activity.calls call = some .scheduling

def IsCovered (activity : Activity σ) : Prop :=
  activity.keeper.IsCovered ∨ activity.IsPending

/-- The moves that give up a refresh without arranging for the next one. -/
inductive ComesToNothing (activity : Activity σ) : Move σ → Prop where
  | droppedBefore {call : Nat} {lockFree : Bool} (entering : activity.calls call = some .entering) :
      ComesToNothing activity (.drop call lockFree)
  | droppedWhileSending {call : Nat} {generation : UInt64}
      (sending : activity.calls call = some (.sending generation))
      (awaited : activity.keeper.IsAwaited generation) :
      ComesToNothing activity (.drop call true)
  | refused {call : Nat} (refused : activity.calls call = some .refused) :
      ComesToNothing activity (.release call)
  | passed (passed : (activity.keeper.schedule activity.device.settings
      activity.device.now).1 = .error .subtraction) : ComesToNothing activity .schedule
  | callPassed {call : Nat} (scheduling : activity.calls call = some .scheduling)
      (passed : (activity.keeper.schedule activity.device.settings
        activity.device.now).1 = .error .subtraction) : ComesToNothing activity (.arrange call)
  | reported {call : Nat} {generation : UInt64} {reason : String}
      (failing : activity.calls call = some (.failing generation reason))
      (awaited : activity.keeper.IsAwaited generation)
      (panics : activity.keeper.PanicsAtFailure activity.device.random) :
      ComesToNothing activity (.report call)
  | lapsed {task : Nat} {generation : UInt64} {limit : Span}
      (armed : activity.keeper.duty? task = some (.watch generation limit))
      (panics : activity.keeper.PanicsAtFailure activity.device.random) :
      ComesToNothing activity (.wake task)

theorem isCovered_beginCall_scheduling (activity : Activity σ) :
    (activity.beginCall .scheduling).IsCovered :=
  .inr (.inr ⟨activity.nextCall, calls_beginCall_next _⟩)

theorem isCovered_takeFlag (sound : activity.keeper.Sound activity.device.settings)
    (flagged : activity.Flagged) : activity.takeFlag.IsCovered := by
  rcases activity.takeFlag_cases with ⟨flag, same⟩ | ⟨taken, _, began⟩
  · rw [same]
    rcases flagged.owned flag with watched | holds
    · exact .inl (.arranged (sound.isArranged watched))
    · exact .inr (.inl holds)
  · rw [began]
    exact .inr (.inl ⟨activity.nextCall, .inl (calls_beginCall_next _)⟩)

variable [Backend σ]

theorem isCovered_step_of_keeper {move : Move σ} (prompt : move.isPrompt = true)
    (sound : activity.keeper.Sound activity.device.settings) (flagged : activity.Flagged)
    (covered : activity.keeper.IsCovered) :
    (activity.step move).IsCovered ∨ activity.ComesToNothing move := by
  -- Whether a refresh is arranged for can be seen from the tasks and the phase.
  have same : ∀ after : Activity σ, after.keeper.record = activity.keeper.record →
      after.keeper.autoRefresh = activity.keeper.autoRefresh →
      after.keeper.tasks = activity.keeper.tasks →
      after.keeper.phase = activity.keeper.phase → after.IsCovered :=
    fun after record autoRefresh tasks phase =>
      .inl (covered.of_same record autoRefresh tasks phase)
  cases move with
  | surroundings => exact .inl (same _ rfl rfl rfl rfl)
  | connect => exact .inl (same _ rfl rfl rfl rfl)
  | load =>
      left
      simp only [step]
      by_cases initialized : activity.device.keeper.phase = .uninitialized
      · rcases Device.takeStored_cases initialized with ⟨_, _, taken⟩ | ⟨stored, _, taken⟩
        · rw [taken]
          exact same _ rfl rfl rfl rfl
        · rw [taken]
          cases held : (activity.device.keeper.beginWith activity.device.settings
            activity.device.now stored).record with
          | none => exact .inl (.inl held)
          | some record => exact isCovered_beginCall_scheduling _
      · rw [Device.takeStored_of_initialized initialized]
        exact same _ rfl rfl rfl rfl
  | hold token lifetime =>
      left
      simp only [step]
      rcases activity.device.holdToken_cases token lifetime with ⟨_, _, held⟩ | ⟨_, _, _, held⟩
      · rw [held]
        exact same _ rfl rfl rfl rfl
      · rw [held]
        exact isCovered_beginCall_scheduling _
  | schedule =>
      by_cases decided : (activity.keeper.schedule activity.device.settings
        activity.device.now).1 = .error .subtraction
      · exact .inr (.passed decided)
      · exact .inl (.inl (Keeper.isCovered_schedule decided))
  | allow enabled => exact .inl (isCovered_beginCall_scheduling _)
  | answer message =>
      left
      simp only [step]
      rcases activity.device.applyAnswer_cases message with
        ⟨_, refused⟩ | ⟨_, ⟨missing, _, applied⟩ | ⟨_, _, _, _, applied⟩ | ⟨_, _, _, _, applied⟩⟩
      · rw [refused]
        exact same _ rfl rfl rfl rfl
      · rw [applied]
        exact .inl (.inl missing)
      · rw [applied]
        exact isCovered_beginCall_scheduling _
      · rw [applied]
        left
        rw [keeper_goOn]
        exact .inl rfl
  | clear => exact .inl (.inl (.inl rfl))
  | shutdown => exact .inl (.inl (.inl rfl))
  | confirm => exact .inl (same _ rfl rfl rfl rfl)
  | deny => exact .inl (same _ rfl rfl rfl rfl)
  | refresh => exact .inl (isCovered_takeFlag sound flagged)
  | begin task =>
      simp only [step]
      split
      next launched =>
        left
        have member := (sound.tidy.duty?_eq_some_iff _ _).mp launched
        exact isCovered_takeFlag (sound.endTask member rfl)
          ⟨flagged.numbered, flagged.owned⟩
      next => exact .inl (same _ rfl rfl rfl rfl)
  | wake task =>
      simp only [step, onDevice, Device.wakeTask]
      split
      next delay armed =>
        left
        exact .inl (.arranged (Keeper.isArranged_launchRefresh _))
      next generation limit armed =>
        by_cases panics : activity.keeper.PanicsAtFailure activity.device.random
        · exact .inr (.lapsed armed panics)
        · have member := (sound.tidy.duty?_eq_some_iff _ _).mp armed
          have awaited : (activity.keeper.endTask task).IsAwaited generation :=
            (sound.isAwaited_of_mem member).1
          exact .inl (.inl (Keeper.isCovered_failRefresh awaited panics))
      next => exact .inl (same _ rfl rfl rfl rfl)
  | expire => cases prompt
  | enter call =>
      left
      simp only [step]
      split
      next =>
        rcases activity.enter_cases call with ⟨refused, _⟩ | ⟨_, _, _, request, entered⟩
        · rw [refused]
          exact same _ rfl rfl rfl rfl
        · rw [entered]
          exact .inl (.arranged (Keeper.isArranged_enterRefresh request))
      next => exact same _ rfl rfl rfl rfl
  | release call =>
      left
      simp only [step]
      split
      all_goals exact same _ rfl rfl rfl rfl
  | sent call result =>
      left
      simp only [step]
      split
      all_goals exact same _ rfl rfl rfl rfl
  | report call =>
      simp only [step]
      split
      next generation reason failing =>
        by_cases awaited : activity.keeper.IsAwaited generation
        · by_cases panics : activity.keeper.PanicsAtFailure activity.device.random
          · exact .inr (.reported failing awaited panics)
          · exact .inl (.inl (Keeper.isCovered_failRefresh awaited panics))
        · left
          left
          dsimp only [onDevice]
          rw [Device.failRefresh_of_not awaited]
          exact covered
      next => exact .inl (same _ rfl rfl rfl rfl)
  | drop call lockFree =>
      simp only [step]
      split
      next => exact .inl (same _ rfl rfl rfl rfl)
      next generation sending =>
        by_cases awaited : activity.keeper.IsAwaited generation
        · cases lockFree with
          | true => exact .inr (.droppedWhileSending sending awaited)
          | false => exact .inl (same _ rfl rfl rfl rfl)
        · left
          split
          next =>
            unfold onDevice
            rw [Device.abandonRefresh_of_not awaited]
            exact same _ rfl rfl rfl rfl
          next => exact same _ rfl rfl rfl rfl
      next => exact .inl (same _ rfl rfl rfl rfl)
      next => exact .inl (same _ rfl rfl rfl rfl)
  | arrange call =>
      simp only [step]
      split
      next scheduling =>
        by_cases decided : (activity.keeper.schedule activity.device.settings
          activity.device.now).1 = .error .subtraction
        · exact .inr (.callPassed scheduling decided)
        · exact .inl (.inl (Keeper.isCovered_schedule decided))
      next => exact .inl (same _ rfl rfl rfl rfl)

theorem isCovered_step_of_isPending {move : Move σ} (prompt : move.isPrompt = true)
    (sound : activity.keeper.Sound activity.device.settings) (flagged : activity.Flagged)
    (pending : activity.IsPending) :
    (activity.step move).IsCovered ∨ activity.ComesToNothing move := by
  rcases pending with holds | ⟨call, scheduling⟩
  · rcases holds.goesOn flagged.numbered move with
      later | watched | ⟨_, _, rfl, entering⟩ | ⟨_, rfl, refused⟩
    · exact .inl (.inr (.inl later))
    · have soundAfter := sound_effect sound (activity.step_effect move).2 prompt
      exact .inl (.inl (.arranged (soundAfter.isArranged watched)))
    · exact .inr (.droppedBefore entering)
    · exact .inr (.refused refused)
  · by_cases own : move.call? = some call
    case neg =>
      left
      right
      right
      refine ⟨call, ?_⟩
      rw [calls_step_other move (flagged.numbered.lt scheduling) own]
      exact scheduling
    case pos =>
      cases move with
      | arrange actor =>
          cases own
          by_cases decided : (activity.keeper.schedule activity.device.settings
            activity.device.now).1 = .error .subtraction
          · exact .inr (.callPassed scheduling decided)
          · simp only [step, scheduling]
            exact .inl (.inl (Keeper.isCovered_schedule decided))
      | _ =>
          cases own
          all_goals
            left
            right
            right
            simp only [step, scheduling]
            exact ⟨call, scheduling⟩

theorem isCovered_step {move : Move σ} (prompt : move.isPrompt = true)
    (sound : activity.keeper.Sound activity.device.settings) (flagged : activity.Flagged)
    (covered : activity.IsCovered) :
    (activity.step move).IsCovered ∨ activity.ComesToNothing move := by
  rcases covered with keeper | pending
  · exact isCovered_step_of_keeper prompt sound flagged keeper
  · exact isCovered_step_of_isPending prompt sound flagged pending

/-! ## Arranging for a refresh again -/

/-- The moves that arrange for a refresh when none is arranged for. -/
inductive Arranges (activity : Activity σ) : Move σ → Prop where
  | scheduled (can : activity.keeper.CanSchedule activity.device.settings activity.device.now) :
      Arranges activity .schedule
  | called {call : Nat} (scheduling : activity.calls call = some .scheduling)
      (can : activity.keeper.CanSchedule activity.device.settings activity.device.now) :
      Arranges activity (.arrange call)
  | requested {call : Nat} (entering : activity.calls call = some .entering)
      (initialized : activity.keeper.phase ≠ .uninitialized)
      (held : activity.keeper.record ≠ none) : Arranges activity (.enter call)
  | reported {call : Nat} {generation : UInt64} {reason : String}
      (failing : activity.calls call = some (.failing generation reason))
      (awaited : activity.keeper.IsAwaited generation)
      (can : activity.keeper.CanRetry activity.device.settings activity.device.random) :
      Arranges activity (.report call)

theorem Arranges.tasks_ne_nil {move : Move σ} (arranges : activity.Arranges move) :
    (activity.step move).keeper.tasks ≠ [] := by
  cases arranges with
  | scheduled can => exact Keeper.tasks_schedule_of_canSchedule can
  | called scheduling can =>
      simp only [step, scheduling]
      exact Keeper.tasks_schedule_of_canSchedule can
  | requested entering initialized held =>
      rename_i call
      simp only [step, entering]
      rcases activity.enter_cases call with ⟨_, uninitialized | none⟩ | ⟨_, _, _, request, entered⟩
      · exact absurd uninitialized initialized
      · exact absurd none held
      · rw [entered]
        exact (Keeper.isArranged_enterRefresh request).tasks_ne_nil
  | reported failing awaited can =>
      rw [step_report failing]
      exact Keeper.tasks_failRefresh_of_canRetry awaited can

theorem tasks_step_of_not_arranges {move : Move σ} (prompt : move.isPrompt = true)
    (ended : activity.keeper.tasks = []) (unarranged : ¬ activity.Arranges move) :
    (activity.step move).keeper.tasks = [] := by
  have gone : ∀ task, activity.keeper.duty? task = none := by
    intro task
    simp [Keeper.duty?, ended]
  have filtered : ∀ keep : Task → Bool, activity.keeper.tasks.filter keep = [] := by
    intro keep
    rw [ended]
    rfl
  cases move with
  | load =>
      simp only [step, keeper_goOn]
      by_cases initialized : activity.device.keeper.phase = .uninitialized
      · rcases Device.takeStored_cases initialized with
          ⟨_, _, taken⟩ | ⟨_ | record, _, taken⟩
        all_goals
          rw [taken]
          exact ended
      · rw [Device.takeStored_of_initialized initialized]
        exact ended
  | hold token lifetime =>
      simp only [step, keeper_goOn]
      rcases activity.device.holdToken_cases token lifetime with ⟨_, _, held⟩ | ⟨_, _, _, held⟩
      · rw [held]
        exact ended
      · rw [held]
        exact filtered _
  | schedule => exact Keeper.tasks_schedule_of_not (fun can => unarranged (.scheduled can)) ended
  | answer message =>
      simp only [step, keeper_goOn]
      rcases activity.device.applyAnswer_cases message with
        ⟨_, refused⟩ | ⟨_, ⟨_, _, applied⟩ | ⟨_, _, _, _, applied⟩ | ⟨_, _, _, _, applied⟩⟩
      · rw [refused]
        exact ended
      · rw [applied]
        exact filtered _
      · rw [applied]
        exact filtered _
      · rw [applied]
        exact (congrArg (List.filter _) (filtered _)).trans rfl
  | clear => exact (congrArg (List.filter _) (filtered _)).trans rfl
  | shutdown => exact filtered _
  | refresh =>
      simp only [step]
      rcases activity.takeFlag_cases with ⟨_, same⟩ | ⟨taken, free, began⟩
      · rw [same]
        exact ended
      · rw [began]
        rw [(Keeper.takeFlag?_some free).2]
        exact ended
  | begin task =>
      simp only [step, gone]
      exact ended
  | wake task =>
      have none := gone task
      unfold keeper at none
      simp only [step, onDevice, Device.wakeTask, none]
      exact ended
  | expire => cases prompt
  | enter call =>
      simp only [step]
      split
      next entering =>
        rcases activity.enter_cases call with ⟨refused, _⟩ | ⟨_, _, _, request, entered⟩
        · rw [refused]
          exact ended
        · rcases Keeper.enterRefresh_ok request with ⟨record, held, initialized, _⟩
          refine absurd (.requested entering initialized ?_) unarranged
          rw [held]
          simp
      next => exact ended
  | release call =>
      simp only [step]
      split
      all_goals exact ended
  | sent call result =>
      simp only [step]
      split
      all_goals exact ended
  | report call =>
      simp only [step]
      split
      next generation reason failing =>
        exact Keeper.tasks_failRefresh_of_not
          (fun awaited can => unarranged (.reported failing awaited can)) ended
      next => exact ended
  | drop call lockFree =>
      simp only [step]
      split
      next => exact ended
      next generation sending =>
        split
        next =>
          show (activity.keeper.abandonRefresh _ _ generation).tasks = []
          unfold Keeper.abandonRefresh Keeper.settleAbandoned
          split
          · exact filtered _
          · exact ended
        next => exact ended
      next => exact ended
      next => exact ended
  | arrange call =>
      simp only [step]
      split
      next scheduling =>
        exact Keeper.tasks_schedule_of_not (fun can => unarranged (.called scheduling can)) ended
      next => exact ended
  | _ => exact ended

/-! ## Runs -/

def Lapses (activity : Activity σ) (move : Move σ) : Prop :=
  activity.ComesToNothing move ∧ (activity.step move).keeper.tasks = []

def Lapsed (moves : List (Move σ)) (activity : Activity σ) : Prop :=
  ∃ before move after, moves = before ++ move :: after ∧ (activity.run before).Lapses move ∧
    ∀ first next last, after = first ++ next :: last →
      ¬ (((activity.run before).step move).run first).Arranges next

theorem Lapsed.concat {moves : List (Move σ)} (lapsed : activity.Lapsed moves) {move : Move σ}
    (unarranged : ¬ (activity.run moves).Arranges move) :
    activity.Lapsed (moves ++ [move]) := by
  rcases lapsed with ⟨before, lapse, after, rfl, lapses, since⟩
  refine ⟨before, lapse, after ++ [move], by simp, lapses, ?_⟩
  intro first next last split
  rcases List.eq_nil_or_concat last with rfl | ⟨rest, final, rfl⟩
  · rcases List.append_inj' split rfl with ⟨rfl, same⟩
    cases same
    rw [run_append] at unarranged
    exact unarranged
  · apply since first next rest
    have shorter : after ++ [move] = first ++ next :: rest ++ [final] := by simpa using split
    exact (List.append_inj' shorter rfl).1

theorem lapsed_of_lapses {moves : List (Move σ)} {move : Move σ}
    (lapses : (activity.run moves).Lapses move) : activity.Lapsed (moves ++ [move]) :=
  ⟨moves, move, [], rfl, lapses, fun first _ _ split => absurd split (by simp)⟩

theorem tasks_run_of_not_arranges {moves : List (Move σ)} (prompt : IsPrompt moves)
    (ended : activity.keeper.tasks = [])
    (unarranged : ∀ first next last, moves = first ++ next :: last →
      ¬ (activity.run first).Arranges next) : (activity.run moves).keeper.tasks = [] := by
  induction moves generalizing activity with
  | nil => exact ended
  | cons move rest induction =>
      have first : move.isPrompt = true := prompt move (.head rest)
      apply induction (fun later member => prompt later (.tail move member))
      · exact tasks_step_of_not_arranges first ended (unarranged [] move rest rfl)
      · intro first next last split
        apply unarranged (move :: first) next last
        rw [split]
        rfl

/-- After every run a refresh is arranged for or will be, or none has been since one came
to nothing. -/
theorem isCovered_or_lapsed (settings : Settings) (address : Address) (now : UInt32)
    (random : Octets) (store : σ) {moves : List (Move σ)} (prompt : IsPrompt moves) :
    ((start settings address now random store).run moves).IsCovered ∨
      (start settings address now random store).Lapsed moves := by
  induction moves using List.reverseRecOn with
  | nil => exact .inl (.inl (.inl rfl))
  | append_singleton moves move induction =>
      have earlier : IsPrompt moves := fun other member =>
        prompt other (List.mem_append_left _ member)
      have last : move.isPrompt = true := prompt move (by simp)
      have sound := sound_run settings address now random store earlier
      have flagged := flagged_run settings address now random store earlier
      rw [run_concat]
      by_cases ended : (((start settings address now random store).run moves).step
        move).keeper.tasks = []
      case neg =>
        exact .inl (.inl (.arranged ((sound_step sound last).isArranged_of_tasks ended)))
      case pos =>
        rcases induction earlier with covered | lapsed
        · rcases isCovered_step last sound flagged covered with after | nothing
          · exact .inl after
          · exact .inr (lapsed_of_lapses ⟨nothing, ended⟩)
        · exact .inr (lapsed.concat fun arranges => arranges.tasks_ne_nil ended)

theorem not_isArranged_of_lapsed (settings : Settings) (address : Address) (now : UInt32)
    (random : Octets) (store : σ) {moves : List (Move σ)} (prompt : IsPrompt moves)
    (lapsed : (start settings address now random store).Lapsed moves) :
    ¬ ((start settings address now random store).run moves).keeper.IsArranged := by
  rcases lapsed with ⟨before, move, after, rfl, lapses, since⟩
  have later : IsPrompt after := fun other member => prompt other (by simp [member])
  have ended := tasks_run_of_not_arranges later lapses.2 since
  intro arranged
  rw [run_append] at arranged
  exact arranged.tasks_ne_nil ended

/-- When nobody is using a device that holds a token and refreshes automatically, a
refresh is arranged for unless one came to nothing, and none has been since. -/
theorem isArranged_iff (settings : Settings) (address : Address) (now : UInt32)
    (random : Octets) (store : σ) {moves : List (Move σ)} (prompt : IsPrompt moves)
    (quiet : ((start settings address now random store).run moves).Quiet)
    (held : ((start settings address now random store).run moves).keeper.record ≠ none)
    (automatic : ((start settings address now random store).run moves).keeper.autoRefresh =
      true) :
    ((start settings address now random store).run moves).keeper.IsArranged ↔
      ¬ (start settings address now random store).Lapsed moves := by
  constructor
  · intro arranged lapsed
    exact not_isArranged_of_lapsed settings address now random store prompt lapsed arranged
  · intro unlapsed
    -- While nobody is using the device no call is left that could still see to it.
    rcases isCovered_or_lapsed settings address now random store prompt with
      ((none | off | arranged) | ⟨call, entering | refused⟩ | ⟨call, scheduling⟩) | lapsed
    · exact absurd none held
    · rw [off] at automatic
      cases automatic
    · exact arranged
    · rw [quiet call] at entering
      cases entering
    · rw [quiet call] at refused
      cases refused
    · rw [quiet call] at scheduling
      cases scheduling
    · exact absurd lapsed unlapsed

def keepToken : List (Move Memory) := [.load, .hold "abcdefghijklmnop" 3600, .arrange 0]

theorem isArranged_keepToken :
    (sample.run keepToken).keeper.IsArranged ∧ ¬ sample.Lapsed keepToken := by
  have quiet : (sample.run keepToken).Quiet := by
    apply (numbered_run _ _ _ _ _ keepToken).quiet
    decide +kernel
  have arranged : (sample.run keepToken).keeper.IsArranged := by decide +kernel
  refine ⟨arranged, (isArranged_iff _ _ _ _ _ ?_ quiet ?_ ?_).mp arranged⟩
  all_goals decide +kernel

def goAway : List (Move Memory) :=
  [.load, .connect, .hold "abcdefghijklmnop" 61, .arrange 0, .refresh, .enter 1, .wake 0,
    .begin 2, .drop 1 true]

/-- After this a token is held and is to be refreshed, and nothing will do it. -/
theorem not_isArranged_goAway :
    IsPrompt goAway ∧ (sample.run goAway).Quiet ∧
      (sample.run goAway).keeper.record ≠ none ∧
      (sample.run goAway).keeper.autoRefresh = true ∧
      ¬ (sample.run goAway).keeper.IsArranged := by
  refine ⟨?_, ?_, ?_⟩
  case refine_2 =>
    apply (numbered_run _ _ _ _ _ goAway).quiet
    decide +kernel
  all_goals decide +kernel

end Activity

end DeviceAuth
