import DeviceAuth.Proofs.Activity.Calls

/-! The flag of the refresh that is under way. As long as it is taken no refresh can
begin, so a flag that nobody gives back would end all refreshing. Only a call that has
not ended, or an answer that is waited for, can have the flag; and as long as such an
answer has the flag, its watchdog is there to give it back. -/

namespace DeviceAuth

namespace Activity

variable {σ : Type} {activity : Activity σ}

def HoldsFlag (activity : Activity σ) : Prop :=
  ∃ call, activity.calls call = some .entering ∨ activity.calls call = some .refused

def NoRefresh (activity : Activity σ) : Prop :=
  ∀ call stage, activity.calls call = some stage → stage.isRefresh = false

theorem NoRefresh.not_holdsFlag (none : activity.NoRefresh) : ¬ activity.HoldsFlag := by
  rintro ⟨call, entering | refused⟩
  · exact absurd (none call _ entering) nofun
  · exact absurd (none call _ refused) nofun

structure Flagged (activity : Activity σ) : Prop where
  numbered : activity.Numbered
  owned : activity.keeper.inFlight = true → activity.keeper.IsWatched ∨ activity.HoldsFlag

theorem Flagged.start (settings : Settings) (address : Address) (now : UInt32)
    (random : Octets) (store : σ) : (start settings address now random store).Flagged where
  numbered _ _ := rfl
  owned flag := by cases flag

variable [Backend σ]

def GoesOn (activity : Activity σ) (move : Move σ) : Prop :=
  (activity.step move).HoldsFlag ∨ (activity.step move).keeper.IsWatched ∨
    (∃ call lockFree, move = .drop call lockFree ∧ activity.calls call = some .entering) ∨
    ∃ call, move = .release call ∧ activity.calls call = some .refused

theorem goesOn_of_entering {call : Nat} (entering : activity.calls call = some .entering)
    {move : Move σ} (own : move.call? = some call) : activity.GoesOn move := by
  cases move with
  | enter actor =>
      cases own
      unfold GoesOn
      simp only [step, entering]
      rcases activity.enter_cases call with ⟨refused, _⟩ | ⟨_, _, _, request, entered⟩
      · rw [refused]
        exact .inl ⟨call, .inr (calls_setCall_same _)⟩
      · rw [entered]
        exact .inr (.inl (Keeper.isWatched_enterRefresh request))
  | drop actor lockFree =>
      cases own
      exact .inr (.inr (.inl ⟨call, lockFree, rfl, entering⟩))
  | _ =>
      cases own
      all_goals
        left
        simp only [step, entering]
        exact ⟨call, .inl entering⟩

theorem goesOn_of_refused {call : Nat} (refused : activity.calls call = some .refused)
    {move : Move σ} (own : move.call? = some call) : activity.GoesOn move := by
  cases move with
  | release actor =>
      cases own
      exact .inr (.inr (.inr ⟨call, rfl, refused⟩))
  | _ =>
      cases own
      all_goals
        left
        simp only [step, refused]
        exact ⟨call, .inr refused⟩

theorem HoldsFlag.goesOn (holds : activity.HoldsFlag) (numbered : activity.Numbered)
    (move : Move σ) : activity.GoesOn move := by
  rcases holds with ⟨call, holding⟩
  have old : call < activity.nextCall := by
    rcases holding with entering | refused
    · exact numbered.lt entering
    · exact numbered.lt refused
  by_cases own : move.call? = some call
  · rcases holding with entering | refused
    · exact goesOn_of_entering entering own
    · exact goesOn_of_refused refused own
  · left
    refine ⟨call, ?_⟩
    rw [calls_step_other move old own]
    exact holding

theorem HoldsFlag.step (holds : activity.HoldsFlag) (numbered : activity.Numbered)
    (move : Move σ) (flag : (activity.step move).keeper.inFlight = true) :
    (activity.step move).keeper.IsWatched ∨ (activity.step move).HoldsFlag := by
  rcases holds.goesOn numbered move with
    later | watched | ⟨_, _, rfl, entering⟩ | ⟨_, rfl, refused⟩
  · exact .inr later
  · exact .inl watched
  · simp only [Activity.step, entering] at flag
    cases flag
  · simp only [Activity.step, refused] at flag
    cases flag

theorem Flagged.step (flagged : activity.Flagged) {move : Move σ}
    (prompt : move.isPrompt = true) : (activity.step move).Flagged where
  numbered := flagged.numbered.step move
  owned flag := by
    have goesOn : activity.keeper.inFlight = true →
        (activity.keeper.IsWatched → (activity.step move).keeper.IsWatched) →
        (activity.step move).keeper.IsWatched ∨ (activity.step move).HoldsFlag := by
      intro before kept
      rcases flagged.owned before with watched | holds
      · exact .inl (kept watched)
      · exact holds.step flagged.numbered move flag
    cases (activity.step_effect move).2 with
    | change change kept =>
        rw [kept] at flag goesOn ⊢
        exact goesOn (change.kept flag).1 (change.kept flag).2
    | take change taken began => exact .inr ⟨activity.nextCall, .inl began⟩
    | fail delivered failed =>
        rw [failed] at flag goesOn ⊢
        have kept := Keeper.kept_failRefresh _ _ _ _ _ flag
        exact goesOn kept.1 kept.2
    | lapse armed delivered failed =>
        rw [failed] at flag goesOn ⊢
        have kept := Keeper.kept_failRefresh _ _ _ _ _ flag
        exact goesOn kept.1 kept.2
    | expire waits =>
        rw [waits] at prompt
        cases prompt

theorem flagged_run (settings : Settings) (address : Address) (now : UInt32)
    (random : Octets) (store : σ) {moves : List (Move σ)} (prompt : IsPrompt moves) :
    ((Activity.start settings address now random store).run moves).Flagged :=
  run_preserves Flagged (fun move member _ flagged => flagged.step (prompt move member)) _
    (Flagged.start settings address now random store)

/-! ## Giving the flag back -/

theorem inFlight_wake {task : Nat} {generation : UInt64} {limit : Span}
    (armed : activity.keeper.duty? task = some (.watch generation limit))
    (awaited : activity.keeper.IsAwaited generation) :
    (activity.step (.wake task)).keeper.inFlight = false := by
  have awaitedAfter : (activity.keeper.endTask task).IsAwaited generation := awaited
  rw [step_wake armed]
  exact Keeper.inFlight_failRefresh _ _ _ _ awaitedAfter

def IsWatched (activity : Activity σ) : Prop :=
  activity.keeper.phase = .refreshInProgress →
    ∃ task, activity.keeper.watchdogs =
      [⟨task, .watch activity.keeper.generation activity.device.settings.responseTimeout⟩]

/-- A device at a moment when its refreshes cannot hang. -/
structure CannotHang (activity : Activity σ) : Prop where
  watching : activity.keeper.watchdogs ≠ [] → activity.keeper.phase = .refreshInProgress
  waiting : activity.NoRefresh → activity.keeper.inFlight = true →
    activity.keeper.phase = .refreshInProgress
  lapses : activity.NoRefresh → activity.keeper.inFlight = true →
    ∃ task limit,
      activity.keeper.duty? task = some (.watch activity.keeper.generation limit) ∧
        (activity.step (.wake task)).keeper.inFlight = false
  answered : activity.NoRefresh → activity.keeper.inFlight = true →
    ∀ message answer, Refresh.Answer.read message = .ok answer →
      (activity.step (.answer message)).keeper.inFlight = false
  replaced : activity.NoRefresh → activity.keeper.inFlight = true →
    ∀ token lifetime, token.isEmpty = false →
      (activity.step (.hold token lifetime)).keeper.inFlight = false
  cleared : (activity.step .clear).keeper.inFlight = false
  stopped : (activity.step .shutdown).keeper.inFlight = false

theorem cannotHang_of_sound (sound : activity.keeper.Sound activity.device.settings)
    (flagged : activity.Flagged) : activity.CannotHang := by
  have watched : activity.NoRefresh → activity.keeper.inFlight = true →
      activity.keeper.IsWatched := fun none flag =>
    (flagged.owned flag).resolve_right none.not_holdsFlag
  have initialized : activity.NoRefresh → activity.keeper.inFlight = true →
      activity.keeper.phase ≠ .uninitialized := by
    intro none flag uninitialized
    rw [(watched none flag).1] at uninitialized
    cases uninitialized
  constructor
  case watching => exact sound.refreshing_of_watchdogs
  case waiting => exact fun none flag => (watched none flag).1
  case lapses =>
    intro none flag
    rcases sound.mem_of_isWatched (watched none flag) with ⟨task, _, member⟩
    have armed := (sound.tidy.duty?_eq_some_iff _ _).mpr member
    exact ⟨task, _, armed, inFlight_wake armed ⟨rfl, (watched none flag).1⟩⟩
  case answered =>
    intro none flag message answer read
    exact (keeper_answer read (initialized none flag)).1
  case replaced =>
    intro none flag token lifetime given
    exact (keeper_hold lifetime given (initialized none flag)).1
  case cleared => rfl
  case stopped => rfl

end Activity

end DeviceAuth
