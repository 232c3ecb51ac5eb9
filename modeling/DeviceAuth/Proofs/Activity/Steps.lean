import DeviceAuth.Activity
import DeviceAuth.Proofs.Device.Token
import DeviceAuth.Storage.Memory

/-! What a move does to the keeper of a device. The keeper changes in one of the ways that
any keeper can, or its flag is taken, or a refresh fails. What all of this preserves
holds after every run. -/

namespace DeviceAuth

namespace Activity

variable {σ : Type}

/-! ## Parts of a move -/

section Calls

variable {activity : Activity σ} {call : Nat}

theorem calls_setCall_same (stage : Option Stage) :
    (activity.setCall call stage).calls call = stage := if_pos rfl

theorem calls_setCall_other (stage : Option Stage) {other : Nat} (different : call ≠ other) :
    (activity.setCall other stage).calls call = activity.calls call := if_neg different

theorem calls_beginCall_next (stage : Stage) :
    (activity.beginCall stage).calls activity.nextCall = some stage := if_pos rfl

theorem calls_beginCall_of_ne (stage : Stage) (other : call ≠ activity.nextCall) :
    (activity.beginCall stage).calls call = activity.calls call := if_neg other

end Calls

@[simp] theorem device_setCall (call : Nat) (stage : Option Stage) (activity : Activity σ) :
    (activity.setCall call stage).device = activity.device := rfl

@[simp] theorem device_beginCall (stage : Stage) (activity : Activity σ) :
    (activity.beginCall stage).device = activity.device := rfl

@[simp] theorem device_goOn (answer : Except Failure Bool × Device σ)
    (activity : Activity σ) : (activity.goOn answer).device = answer.2 := by
  rcases answer with ⟨_ | _ | _, device⟩ <;> rfl

theorem keeper_goOn (answer : Except Failure Bool × Device σ) (activity : Activity σ) :
    (activity.goOn answer).keeper = answer.2.keeper :=
  congrArg Device.keeper (device_goOn answer activity)

theorem goOn_of_ne (answer : Except Failure Bool × Device σ) (activity : Activity σ)
    (nothing : answer.1 ≠ .ok true) :
    activity.goOn answer = { activity with device := answer.2 } := by
  rcases answer with ⟨_ | _ | _, device⟩
  · rfl
  · rfl
  · exact absurd rfl nothing

def delivers (activity : Activity σ) : Move σ → Option UInt64
  | .report call =>
      match activity.calls call with
      | some (.failing generation _) => some generation
      | _ => none
  | .wake task =>
      match activity.keeper.duty? task with
      | some (.watch generation _) => some generation
      | _ => none
  | _ => none

theorem delivers_report {activity : Activity σ} {call : Nat} {generation : UInt64}
    {reason : String} (present : activity.calls call = some (.failing generation reason)) :
    activity.delivers (.report call) = some generation := by
  simp [delivers, present]

theorem delivers_wake {activity : Activity σ} {task : Nat} {generation : UInt64} {limit : Span}
    (armed : activity.keeper.duty? task = some (.watch generation limit)) :
    activity.delivers (.wake task) = some generation := by
  simp [delivers, armed]

/-! ## The keeper -/

theorem enter_cases (call : Nat) (activity : Activity σ) :
    (activity.enter call = activity.setCall call (some .refused) ∧
        (activity.keeper.phase = .uninitialized ∨ activity.keeper.record = none)) ∨
      ∃ generation proof keeper,
        activity.keeper.enterRefresh activity.device.settings =
          (.ok (generation, proof), keeper) ∧
        activity.enter call = (activity.onKeeper fun _ => keeper).setCall call
          (some (if keeper.connected then .sending generation
            else .failing generation (Failure.link .unavailable).message)) := by
  unfold enter
  rcases Device.enterRefresh_cases activity.device with
    ⟨failure, refused, reason⟩ | ⟨generation, proof, keeper, entered, request⟩
  · rw [refused]
    exact .inl ⟨rfl, reason⟩
  · rw [entered]
    exact .inr ⟨generation, proof, keeper, request, rfl⟩

theorem takeFlag_cases (activity : Activity σ) :
    activity.keeper.inFlight = true ∧ activity.takeFlag = activity ∨
      ∃ taken, activity.keeper.takeFlag? = some taken ∧
        activity.takeFlag = (activity.onKeeper fun _ => taken).beginCall .entering := by
  unfold takeFlag
  cases free : activity.keeper.takeFlag? with
  | none => exact .inl ⟨Keeper.takeFlag?_none free, rfl⟩
  | some taken => exact .inr ⟨taken, rfl, rfl⟩

variable [Backend σ]

theorem step_release {activity : Activity σ} {call : Nat}
    (refused : activity.calls call = some .refused) :
    activity.step (.release call) =
      (activity.onKeeper Keeper.releaseFlag).setCall call none := by
  simp only [step, refused]

theorem step_release_of_ne {activity : Activity σ} {call : Nat}
    (other : activity.calls call ≠ some .refused) :
    activity.step (.release call) = activity := by
  simp only [step]

theorem step_report_of_ne {activity : Activity σ} {call : Nat}
    (other : ∀ generation reason, activity.calls call ≠ some (.failing generation reason)) :
    activity.step (.report call) = activity := by
  simp only [step]

theorem step_wake {activity : Activity σ} {task : Nat} {generation : UInt64} {limit : Span}
    (armed : activity.keeper.duty? task = some (.watch generation limit)) :
    activity.step (.wake task) = (activity.onKeeper (Keeper.endTask task)).onDevice
      fun device => (device.failRefresh generation Device.noAnswer).2 := by
  unfold keeper at armed
  simp only [step, onDevice, Device.wakeTask, armed]
  rfl

theorem keeper_answer {activity : Activity σ} {message : String} {answer : Refresh.Answer}
    (read : Refresh.Answer.read message = .ok answer)
    (initialized : activity.keeper.phase ≠ .uninitialized) :
    (activity.step (.answer message)).keeper.inFlight = false ∧
      (activity.step (.answer message)).keeper.generation =
        activity.keeper.generation + 1 := by
  simp only [step, keeper_goOn]
  cases answer with
  | accepted lifetime token =>
      rcases Device.applyAnswer_accepted read initialized with
        ⟨_, _, applied⟩ | ⟨_, _, _, _, applied⟩
      · rw [applied]
        exact ⟨rfl, rfl⟩
      · rw [applied]
        exact ⟨rfl, rfl⟩
  | rejected reason =>
      rcases Device.applyAnswer_rejected read initialized with ⟨_, _, _, applied⟩
      rw [applied]
      exact ⟨rfl, rfl⟩

theorem keeper_hold {activity : Activity σ} {token : String} (lifetime : UInt32)
    (given : token.isEmpty = false) (initialized : activity.keeper.phase ≠ .uninitialized) :
    (activity.step (.hold token lifetime)).keeper.inFlight = false ∧
      (activity.step (.hold token lifetime)).keeper.phase ≠ .refreshInProgress := by
  simp only [step, keeper_goOn]
  rcases Device.holdToken_ok lifetime given initialized with ⟨record, _, _, _, held⟩
  rw [held]
  exact ⟨rfl, Keeper.phase_replace_ne activity.device.settings activity.device.now record
    activity.device.keeper⟩

inductive Effect (activity : Activity σ) (move : Move σ) (after : Activity σ) : Prop where
  | change {changed : Keeper}
      (change : Keeper.Change activity.device.settings activity.keeper changed)
      (kept : after.keeper = changed)
  | take {changed : Keeper}
      (change : Keeper.Change activity.device.settings activity.keeper changed)
      (taken : changed.takeFlag? = some after.keeper)
      (began : after.calls activity.nextCall = some .entering)
  | fail {generation : UInt64} {reason : String}
      (delivered : activity.delivers move = some generation)
      (failed : after.keeper =
        (activity.keeper.failRefresh activity.device.settings activity.device.now generation
          reason activity.device.random).2.1)
  | lapse {task : Nat} {generation : UInt64} {limit : Span}
      (armed : activity.keeper.duty? task = some (.watch generation limit))
      (delivered : activity.delivers move = some generation)
      (failed : after.keeper =
        ((activity.keeper.endTask task).failRefresh activity.device.settings
          activity.device.now generation Device.noAnswer activity.device.random).2.1)
  | expire {task : Nat} {generation : UInt64} {limit : Span} (waits : move = .expire task)
      (armed : activity.keeper.duty? task = some (.watch generation limit))
      (ended : after.keeper = activity.keeper.endTask task)

theorem step_effect (move : Move σ) (activity : Activity σ) :
    (activity.step move).device.settings = activity.device.settings ∧
      activity.Effect move (activity.step move) := by
  cases move with
  | surroundings => exact ⟨rfl, .change .same rfl⟩
  | connect => exact ⟨rfl, .change .connect rfl⟩
  | load =>
      simp only [step]
      by_cases initialized : activity.device.keeper.phase = .uninitialized
      · rcases Device.takeStored_cases initialized with
          ⟨_, _, taken⟩ | ⟨stored, _, taken⟩
        · rw [taken]
          exact ⟨rfl, .change .same rfl⟩
        · rw [taken]
          exact ⟨by rw [device_goOn], .change (.start _ stored initialized) (keeper_goOn _ _)⟩
      · rw [Device.takeStored_of_initialized initialized]
        exact ⟨rfl, .change .same rfl⟩
  | hold token lifetime =>
      simp only [step]
      rcases activity.device.holdToken_cases token lifetime with
        ⟨_, _, held⟩ | ⟨initialized, record, _, held⟩
      · rw [held]
        exact ⟨rfl, .change .same rfl⟩
      · rw [held]
        exact ⟨rfl, .change (.replace _ record initialized) rfl⟩
  | schedule => exact ⟨rfl, .change (.schedule _) rfl⟩
  | allow enabled => exact ⟨rfl, .change (.allow enabled) rfl⟩
  | answer message =>
      simp only [step]
      rcases activity.device.applyAnswer_cases message with ⟨_, refused⟩ | ⟨initialized,
        ⟨missing, _, applied⟩ | ⟨_, renewed, _, held, applied⟩ | ⟨reason, _, _, _, applied⟩⟩
      · rw [refused]
        exact ⟨rfl, .change .same rfl⟩
      · rw [applied]
        exact ⟨rfl, .change (.miss initialized missing) rfl⟩
      · rw [applied]
        exact ⟨rfl, .change (.renew _ renewed initialized held) rfl⟩
      · rw [applied]
        exact ⟨by rw [device_goOn], .change (.reject reason initialized) (keeper_goOn _ _)⟩
  | clear =>
      obtain ⟨_, cleared⟩ := Device.clearToken_eq activity.device
      simp only [step, onDevice]
      rw [cleared]
      exact ⟨rfl, .change .wipe rfl⟩
  | shutdown => exact ⟨rfl, .change .shutdown rfl⟩
  | confirm => exact ⟨rfl, .change (.confirm _) rfl⟩
  | deny message => exact ⟨rfl, .change (.tell (.authFailed message) (by simp)) rfl⟩
  | refresh =>
      rcases activity.takeFlag_cases with ⟨_, same⟩ | ⟨taken, free, began⟩
      · exact ⟨congrArg (·.device.settings) same, .change .same (congrArg keeper same)⟩
      · simp only [step]
        rw [began]
        exact ⟨rfl, .take .same free (calls_beginCall_next _)⟩
  | begin task =>
      simp only [step]
      split
      next launched =>
        rcases (activity.onKeeper (Keeper.endTask task)).takeFlag_cases with
          ⟨_, same⟩ | ⟨taken, free, began⟩
        · rw [same]
          exact ⟨rfl, .change (.beginTask launched) rfl⟩
        · rw [began]
          exact ⟨rfl, .take (.beginTask launched) free (calls_beginCall_next _)⟩
      next => exact ⟨rfl, .change .same rfl⟩
  | wake task =>
      simp only [step, onDevice, Device.wakeTask]
      split
      next delay armed => exact ⟨rfl, .change (.fire armed) rfl⟩
      next generation limit armed => exact ⟨rfl, .lapse armed (delivers_wake armed) rfl⟩
      next => exact ⟨rfl, .change .same rfl⟩
  | expire task =>
      simp only [step]
      split
      next generation limit armed => exact ⟨rfl, .expire rfl armed rfl⟩
      next => exact ⟨rfl, .change .same rfl⟩
  | enter call =>
      simp only [step]
      split
      next =>
        rcases activity.enter_cases call with
          ⟨refused, _⟩ | ⟨_, _, keeper, request, entered⟩
        · rw [refused]
          exact ⟨rfl, .change .same rfl⟩
        · rw [entered]
          exact ⟨rfl, .change (.enter request) rfl⟩
      next => exact ⟨rfl, .change .same rfl⟩
  | release call =>
      simp only [step]
      split
      next => exact ⟨rfl, .change .release rfl⟩
      next => exact ⟨rfl, .change .same rfl⟩
  | sent call result =>
      simp only [step]
      split
      next => exact ⟨rfl, .change .same rfl⟩
      next => exact ⟨rfl, .change .same rfl⟩
      next => exact ⟨rfl, .change .same rfl⟩
  | report call =>
      simp only [step]
      split
      next present => exact ⟨rfl, .fail (delivers_report present) rfl⟩
      next => exact ⟨rfl, .change .same rfl⟩
  | drop call lockFree =>
      simp only [step]
      split
      next => exact ⟨rfl, .change .release rfl⟩
      next =>
        split
        next => exact ⟨rfl, .change (.abandon _ _) rfl⟩
        next => exact ⟨rfl, .change .release rfl⟩
      next => exact ⟨rfl, .change .same rfl⟩
      next => exact ⟨rfl, .change .same rfl⟩
  | arrange call =>
      simp only [step]
      split
      next => exact ⟨rfl, .change (.schedule _) rfl⟩
      next => exact ⟨rfl, .change .same rfl⟩

theorem sound_effect {move : Move σ} {activity : Activity σ}
    (sound : activity.keeper.Sound activity.device.settings)
    (effect : activity.Effect move (activity.step move))
    (prompt : move.isPrompt = true) :
    (activity.step move).keeper.Sound activity.device.settings := by
  cases effect with
  | change change kept =>
      rw [kept]
      exact sound.change change
  | take change taken => exact (sound.change change).takeFlag taken
  | fail _ failed =>
      rw [failed]
      exact sound.failRefresh _ _ _ _
  | lapse armed _ failed =>
      rw [failed]
      exact sound.lapse armed _ _ _
  | expire waits =>
      rw [waits] at prompt
      cases prompt

theorem sound_step {move : Move σ} {activity : Activity σ}
    (sound : activity.keeper.Sound activity.device.settings) (prompt : move.isPrompt = true) :
    (activity.step move).keeper.Sound (activity.step move).device.settings := by
  rcases activity.step_effect move with ⟨same, effect⟩
  rw [same]
  exact sound_effect sound effect prompt

/-! ## Runs -/

theorem run_append (first second : List (Move σ)) (activity : Activity σ) :
    activity.run (first ++ second) = (activity.run first).run second := by
  induction first generalizing activity with
  | nil => rfl
  | cons move rest induction => exact induction (activity.step move)

theorem run_concat (moves : List (Move σ)) (move : Move σ) (activity : Activity σ) :
    activity.run (moves ++ [move]) = (activity.run moves).step move :=
  run_append moves [move] activity

theorem run_preserves (Holds : Activity σ → Prop) {moves : List (Move σ)}
    (preserves : ∀ move ∈ moves, ∀ activity : Activity σ,
      Holds activity → Holds (activity.step move))
    (activity : Activity σ) (holds : Holds activity) : Holds (activity.run moves) := by
  induction moves generalizing activity with
  | nil => exact holds
  | cons move rest induction =>
      exact induction (fun later member => preserves later (.tail move member))
        (activity.step move) (preserves move (.head rest) activity holds)

def IsPrompt (moves : List (Move σ)) : Prop := ∀ move ∈ moves, move.isPrompt = true

instance (moves : List (Move σ)) : Decidable (IsPrompt moves) :=
  inferInstanceAs (Decidable (∀ move ∈ moves, _))

theorem sound_run (settings : Settings) (address : Address) (now : UInt32) (random : Octets)
    (store : σ) {moves : List (Move σ)} (prompt : IsPrompt moves) :
    ((start settings address now random store).run moves).keeper.Sound
      ((start settings address now random store).run moves).device.settings := by
  apply run_preserves fun activity => activity.keeper.Sound activity.device.settings
  · intro move member activity sound
    exact sound_step sound (prompt move member)
  · exact Keeper.Sound.create settings

def sample : Activity Memory := start {} ⟨List.replicate 6 0, rfl⟩ 1000 [] {}

end Activity

end DeviceAuth
