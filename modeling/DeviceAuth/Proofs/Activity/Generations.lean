import DeviceAuth.Proofs.Activity.Calls
import DeviceAuth.Proofs.Keeper.Failures
import Mathlib.Algebra.Group.Nat.Defs

/-! The numbers of refreshes. A refresh that has ended is passed over for good, however
late its failure or its watchdog comes, as long as its number has not been taken
again: numbers are words of 64 bits. So a refresh fails at most once. Neither a new
token nor a failure takes a number, so that the phase has to be looked at as well. -/

namespace DeviceAuth

namespace Keeper

/-- So many numbers were taken after a given one, and a refresh with the given number is
not waited for any longer. -/
structure Passed (generation : UInt64) (taken : Nat) (keeper : Keeper) : Prop where
  reached : keeper.generation = generation + UInt64.ofNat taken
  ended : taken = 0 → keeper.phase ≠ .refreshInProgress

theorem Passed.not_isAwaited {generation : UInt64} {taken : Nat} {keeper : Keeper}
    (passed : keeper.Passed generation taken) (few : taken < 2 ^ 64) :
    ¬ keeper.IsAwaited generation := by
  rintro ⟨same, refreshing⟩
  have back : generation + UInt64.ofNat taken = generation := passed.reached.symm.trans same
  have value := congrArg UInt64.toNat back
  rw [UInt64.toNat_add, UInt64.toNat_ofNat_of_lt' few] at value
  have bound := generation.toNat_lt
  have none : taken = 0 := by omega
  exact passed.ended none refreshing

end Keeper

namespace Activity

variable {σ : Type} [Backend σ] {activity : Activity σ}

/-! ## Taking numbers -/

def numberTaken (activity : Activity σ) (move : Move σ) : Nat :=
  if (activity.step move).keeper.generation = activity.keeper.generation then 0 else 1

def numbersTaken : List (Move σ) → Activity σ → Nat
  | [], _ => 0
  | move :: rest, activity => activity.numberTaken move + numbersTaken rest (activity.step move)

theorem numbersTaken_append (first second : List (Move σ)) (activity : Activity σ) :
    numbersTaken (first ++ second) activity =
      numbersTaken first activity + numbersTaken second (activity.run first) := by
  induction first generalizing activity with
  | nil => exact (Nat.zero_add _).symm
  | cons move rest induction =>
      simp only [List.cons_append, numbersTaken, run, induction]
      omega

theorem number_step (move : Move σ) (activity : Activity σ) :
    (activity.step move).keeper.generation = activity.keeper.generation + 1 ∨
      (activity.step move).keeper.generation = activity.keeper.generation ∧
        ((activity.step move).keeper.phase = .refreshInProgress →
          activity.keeper.phase = .refreshInProgress) := by
  cases (activity.step_effect move).2 with
  | change change kept =>
      rw [kept]
      exact change.number
  | take change taken =>
      rw [(Keeper.takeFlag?_some taken).2]
      exact change.number
  | fail _ failed =>
      rw [failed]
      exact .inr (Keeper.number_failRefresh _ _ _ _ _)
  | lapse _ _ failed =>
      rw [failed]
      exact .inr (Keeper.number_failRefresh _ _ _ _ _)
  | expire _ _ ended =>
      rw [ended]
      exact .inr ⟨rfl, id⟩

theorem number_step_taken (move : Move σ) (activity : Activity σ) :
    (activity.step move).keeper.generation =
      activity.keeper.generation + UInt64.ofNat (activity.numberTaken move) := by
  unfold numberTaken
  split
  next same => simpa using same
  next other => exact (activity.number_step move).resolve_right fun kept => other kept.1

theorem generation_run (moves : List (Move σ)) (activity : Activity σ) :
    (activity.run moves).keeper.generation =
      activity.keeper.generation + UInt64.ofNat (numbersTaken moves activity) := by
  induction moves generalizing activity with
  | nil => exact (UInt64.add_zero activity.keeper.generation).symm
  | cons move rest induction =>
      simp only [run, numbersTaken]
      rw [induction, number_step_taken, UInt64.ofNat_add, UInt64.add_assoc]

/-! ## Refreshes that have ended -/

theorem passed_step {generation : UInt64} {taken : Nat}
    (passed : activity.keeper.Passed generation taken) (move : Move σ) :
    (activity.step move).keeper.Passed generation (taken + activity.numberTaken move) where
  reached := by
    rw [number_step_taken, passed.reached, UInt64.ofNat_add, UInt64.add_assoc]
  ended none := by
    have before : taken = 0 := by omega
    have same : activity.numberTaken move = 0 := by omega
    have kept := number_step_taken move activity
    rw [same] at kept
    rcases activity.number_step move with next | ⟨_, refreshing⟩
    · rw [next] at kept
      simp at kept
    · exact fun after => passed.ended before (refreshing after)

theorem passed_run {generation : UInt64} {taken : Nat} (moves : List (Move σ))
    (passed : activity.keeper.Passed generation taken) :
    (activity.run moves).keeper.Passed generation (taken + numbersTaken moves activity) := by
  induction moves generalizing activity taken with
  | nil => exact passed
  | cons move rest induction =>
      have later := induction (passed_step passed move)
      rw [Nat.add_assoc] at later
      exact later

omit [Backend σ] in
theorem failRefresh_of_passed {generation : UInt64} {taken : Nat}
    (passed : activity.keeper.Passed generation taken) (few : taken < 2 ^ 64)
    (reason : String) :
    activity.device.failRefresh generation reason = (.ok (), activity.device) :=
  Device.failRefresh_of_not (passed.not_isAwaited few) reason

omit [Backend σ] in
def Requests (generation : UInt64) (activity : Activity σ) (call : Nat) : Prop :=
  activity.calls call = some .entering ∧ ∃ proof keeper,
    activity.keeper.enterRefresh activity.device.settings = (.ok (generation, proof), keeper)

omit [Backend σ] in
theorem requests_iff {generation : UInt64} {call : Nat} :
    activity.Requests generation call ↔ activity.calls call = some .entering ∧
      activity.keeper.phase ≠ .uninitialized ∧ activity.keeper.record.isSome = true ∧
      activity.keeper.generation + 1 = generation := by
  constructor
  · rintro ⟨entering, proof, keeper, entered⟩
    rcases Keeper.enterRefresh_ok entered with ⟨record, held, initialized, number, _, _⟩
    exact ⟨entering, initialized, Option.isSome_iff_exists.mpr ⟨record, held⟩, number.symm⟩
  · rintro ⟨entering, initialized, held, rfl⟩
    rcases Option.isSome_iff_exists.mp held with ⟨record, found⟩
    have made : (activity.keeper.enterRefresh activity.device.settings).1 =
        .ok (activity.keeper.generation + 1, record.proof) := by
      rw [Keeper.enterRefresh, if_neg initialized, found]
    exact ⟨entering, record.proof, _, Prod.ext made rfl⟩

/-- The moves that end the refresh with a given number. A failure ends it once it is
counted: one that cannot be counted stops half-way. -/
inductive Ends (generation : UInt64) (activity : Activity σ) : Move σ → Prop where
  | answered {message : String} {answer : Refresh.Answer}
      (read : Refresh.Answer.read message = .ok answer) : Ends generation activity (.answer message)
  | failed {call : Nat} {reason : String}
      (present : activity.calls call = some (.failing generation reason))
      (countable : activity.keeper.IsAwaited generation → ¬ activity.keeper.IsFull) :
      Ends generation activity (.report call)
  | lapsed {task : Nat} {limit : Span}
      (armed : activity.keeper.duty? task = some (.watch generation limit))
      (countable : activity.keeper.IsAwaited generation → ¬ activity.keeper.IsFull) :
      Ends generation activity (.wake task)
  | superseded {call : Nat} {newer : UInt64} (request : activity.Requests newer call) :
      Ends generation activity (.enter call)
  | replaced {token : String} {lifetime : UInt32} (given : token.isEmpty = false) :
      Ends generation activity (.hold token lifetime)
  | cleared : Ends generation activity .clear
  | stopped : Ends generation activity .shutdown

theorem generation_enter {generation : UInt64} {call : Nat}
    (request : activity.Requests generation call) :
    (activity.step (.enter call)).keeper.generation = generation ∧
      generation = activity.keeper.generation + 1 := by
  rcases requests_iff.mp request with ⟨entering, initialized, held, number⟩
  rcases activity.enter_cases call with ⟨_, uninitialized | none⟩ | ⟨_, _, _, entered, equal⟩
  · exact absurd uninitialized initialized
  · rw [none] at held
    cases held
  · simp only [step, entering]
    rw [equal]
    rcases Keeper.enterRefresh_ok entered with ⟨_, _, _, _, _, rfl⟩
    exact ⟨number, number.symm⟩

theorem ends_of_isAwaited {generation : UInt64} {move : Move σ}
    (awaited : activity.keeper.IsAwaited generation) (ends : activity.Ends generation move) :
    (activity.step move).keeper.generation = activity.keeper.generation + 1 ∨
      (activity.step move).keeper.phase ≠ .refreshInProgress := by
  have initialized : activity.keeper.phase ≠ .uninitialized := by
    rw [awaited.2]
    nofun
  cases ends with
  | answered read => exact .inl (keeper_answer read initialized).2
  | failed present countable =>
      right
      rw [step_report present]
      exact (Keeper.failRefresh_of_isAwaited _ _ _ awaited (countable awaited)).2.2
  | lapsed armed countable =>
      right
      rename_i task limit
      have awaitedAfter : (activity.keeper.endTask task).IsAwaited generation := awaited
      have countableAfter : ¬ (activity.keeper.endTask task).IsFull := countable awaited
      rw [step_wake armed]
      exact (Keeper.failRefresh_of_isAwaited _ _ _ awaitedAfter countableAfter).2.2
  | superseded request =>
      left
      rcases generation_enter request with ⟨made, number⟩
      exact made.trans number
  | replaced given => exact .inr (keeper_hold _ given initialized).2
  | cleared => exact .inl rfl
  | stopped => exact .inl rfl

theorem passed_of_ends {generation : UInt64} {taken : Nat} {move : Move σ}
    (reached : activity.keeper.generation = generation + UInt64.ofNat taken)
    (ends : activity.Ends generation move) :
    (activity.step move).keeper.Passed generation (taken + activity.numberTaken move) where
  reached := by
    rw [number_step_taken, reached, UInt64.ofNat_add, UInt64.add_assoc]
  ended none := by
    intro refreshing
    have before : taken = 0 := by omega
    have same : activity.numberTaken move = 0 := by omega
    have kept := number_step_taken move activity
    rw [same] at kept
    have waiting : activity.keeper.phase = .refreshInProgress := by
      rcases activity.number_step move with next | ⟨_, back⟩
      · rw [next] at kept
        simp at kept
      · exact back refreshing
    have awaited : activity.keeper.IsAwaited generation := by
      refine ⟨?_, waiting⟩
      rw [reached, before]
      exact UInt64.add_zero generation
    rcases ends_of_isAwaited awaited ends with next | ended
    · rw [next] at kept
      simp at kept
    · exact ended refreshing

def Over (generation : UInt64) (moves : List (Move σ)) (activity : Activity σ) : Prop :=
  ∃ before call between ending after,
    moves = before ++ .enter call :: (between ++ ending :: after) ∧
      (activity.run before).Requests generation call ∧
      (((activity.run before).step (.enter call)).run between).Ends generation ending ∧
      numbersTaken (between ++ ending :: after) ((activity.run before).step (.enter call)) <
        2 ^ 64

theorem passed_of_over {generation : UInt64} {moves : List (Move σ)}
    (done : activity.Over generation moves) :
    ∃ taken < 2 ^ 64, (activity.run moves).keeper.Passed generation taken := by
  rcases done with ⟨before, call, between, ending, after, rfl, request, ends, few⟩
  have made := (generation_enter request).1
  let entered := (activity.run before).step (.enter call)
  have reached : (entered.run between).keeper.generation =
      generation + UInt64.ofNat (numbersTaken between entered) := by
    have counted := generation_run between entered
    rw [show entered.keeper.generation = generation from made] at counted
    exact counted
  have passed := passed_run after (passed_of_ends reached ends)
  have whole : activity.run (before ++ .enter call :: (between ++ ending :: after)) =
      ((entered.run between).step ending).run after := by
    rw [run_append, run, run_append]
    rfl
  rw [whole]
  rw [numbersTaken_append, numbersTaken, ← Nat.add_assoc] at few
  exact ⟨_, few, passed⟩

/-! ## Counting failures -/

/-- A count that rises by one with every failure that is waited for and can be counted, and
does not depend on the tasks, the watchdog or the flag. -/
structure CountsFailures (count : Keeper → Nat) : Prop where
  endTask : ∀ keeper task, count (Keeper.endTask task keeper) = count keeper
  endWait : ∀ keeper, count (Keeper.endWait keeper) = count keeper
  failed : ∀ keeper settings now generation reason random,
    keeper.IsAwaited generation → ¬ keeper.IsFull →
      count (keeper.failRefresh settings now generation reason random).2.1 = count keeper + 1

theorem countsFailures_failures : CountsFailures Keeper.failures where
  endTask _ _ := rfl
  endWait _ := rfl
  failed _ _ now _ reason random awaited countable :=
    (Keeper.failRefresh_of_isAwaited now reason random awaited countable).1

theorem countsFailures_retries : CountsFailures fun keeper => keeper.retries.toNat where
  endTask _ _ := rfl
  endWait _ := rfl
  failed _ _ now _ reason random awaited countable :=
    (Keeper.failRefresh_of_isAwaited now reason random awaited countable).2.1

/-- By how much the moves that deliver the failure of a refresh raise a count in a run. -/
def contributed (count : Keeper → Nat) (generation : UInt64) :
    List (Move σ) → Activity σ → Nat
  | [], _ => 0
  | move :: rest, activity =>
      (if activity.delivers move = some generation then
        count (activity.step move).keeper - count activity.keeper
      else 0) + contributed count generation rest (activity.step move)

theorem step_of_delivers {move : Move σ} {generation : UInt64}
    (delivered : activity.delivers move = some generation) :
    ∃ keeper reason, (keeper = activity.keeper ∨
        ∃ task, keeper = activity.keeper.endTask task) ∧
      (activity.step move).keeper =
        (keeper.failRefresh activity.device.settings activity.device.now generation reason
          activity.device.random).2.1 := by
  cases move with
  | report call =>
      simp only [delivers] at delivered
      split at delivered
      next found reason present =>
        cases delivered
        refine ⟨_, reason, .inl rfl, ?_⟩
        rw [step_report present]
        rfl
      next => cases delivered
  | wake task =>
      simp only [delivers] at delivered
      split at delivered
      next found limit armed =>
        cases delivered
        refine ⟨_, Device.noAnswer, .inr ⟨task, rfl⟩, ?_⟩
        rw [step_wake armed]
        rfl
      next => cases delivered
  | _ => cases delivered

section Counts

variable {count : Keeper → Nat} {generation : UInt64} {move : Move σ}

theorem count_step_of_not (counts : CountsFailures count)
    (delivered : activity.delivers move = some generation)
    (passed : ¬ activity.keeper.IsAwaited generation) :
    count (activity.step move).keeper = count activity.keeper := by
  rcases step_of_delivers delivered with ⟨keeper, reason, rfl | ⟨task, rfl⟩, failed⟩
  · rw [failed, Keeper.failRefresh_of_not _ _ _ _ passed]
  · have passedAfter : ¬ (activity.keeper.endTask task).IsAwaited generation := passed
    rw [failed, Keeper.failRefresh_of_not _ _ _ _ passedAfter, counts.endTask]

theorem count_step_of_isFull (counts : CountsFailures count)
    (delivered : activity.delivers move = some generation)
    (awaited : activity.keeper.IsAwaited generation) (full : activity.keeper.IsFull) :
    count (activity.step move).keeper = count activity.keeper := by
  rcases step_of_delivers delivered with ⟨keeper, reason, rfl | ⟨task, rfl⟩, failed⟩
  · rw [failed, Keeper.failRefresh_of_isFull _ _ _ awaited full, counts.endWait]
  · have awaitedAfter : (activity.keeper.endTask task).IsAwaited generation := awaited
    have fullAfter : (activity.keeper.endTask task).IsFull := full
    rw [failed, Keeper.failRefresh_of_isFull _ _ _ awaitedAfter fullAfter, counts.endWait,
      counts.endTask]

theorem count_step_of_isAwaited (counts : CountsFailures count)
    (delivered : activity.delivers move = some generation)
    (awaited : activity.keeper.IsAwaited generation) (countable : ¬ activity.keeper.IsFull) :
    count (activity.step move).keeper = count activity.keeper + 1 ∧
      (activity.step move).keeper.Passed generation 0 := by
  have zero : generation + UInt64.ofNat 0 = generation := UInt64.add_zero generation
  rcases step_of_delivers delivered with ⟨keeper, reason, rfl | ⟨task, rfl⟩, failed⟩
  · rw [failed, counts.failed _ _ _ _ _ _ awaited countable]
    refine ⟨rfl, ?_, fun _ => (Keeper.failRefresh_of_isAwaited _ _ _ awaited countable).2.2⟩
    rw [(Keeper.number_failRefresh _ _ _ _ _).1, awaited.1, zero]
  · have awaitedAfter : (activity.keeper.endTask task).IsAwaited generation := awaited
    have countableAfter : ¬ (activity.keeper.endTask task).IsFull := countable
    rw [failed, counts.failed _ _ _ _ _ _ awaitedAfter countableAfter, counts.endTask]
    refine ⟨rfl, ?_,
      fun _ => (Keeper.failRefresh_of_isAwaited _ _ _ awaitedAfter countableAfter).2.2⟩
    rw [(Keeper.number_failRefresh _ _ _ _ _).1, awaitedAfter.1, zero]

theorem contributed_of_passed (counts : CountsFailures count) {taken : Nat}
    (moves : List (Move σ)) (passed : activity.keeper.Passed generation taken)
    (few : taken + numbersTaken moves activity < 2 ^ 64) :
    contributed count generation moves activity = 0 := by
  induction moves generalizing activity taken with
  | nil => rfl
  | cons move rest induction =>
      simp only [numbersTaken] at few
      have later := induction (passed_step passed move) (by omega)
      simp only [contributed]
      rw [later]
      split
      next delivered =>
        have ignored := passed.not_isAwaited (by omega)
        rw [count_step_of_not counts delivered ignored]
        omega
      next => rfl

theorem contributed_le_one (counts : CountsFailures count) {taken : Nat}
    (moves : List (Move σ)) (begun : activity.keeper.Passed 0 taken)
    (few : taken + numbersTaken moves activity ≤ 2 ^ 64) :
    contributed count generation moves activity ≤ 1 := by
  induction moves generalizing activity taken with
  | nil => exact Nat.zero_le 1
  | cons move rest induction =>
      simp only [numbersTaken] at few
      have later := induction (passed_step begun move) (by omega)
      simp only [contributed]
      split
      next delivered =>
        by_cases awaited : activity.keeper.IsAwaited generation
        · by_cases full : activity.keeper.IsFull
          · rw [count_step_of_isFull counts delivered awaited full]
            omega
          · -- To wait for an answer took a number, so fewer than all are left.
            have some : taken ≠ 0 := fun none => begun.ended none awaited.2
            rcases count_step_of_isAwaited counts delivered awaited full with ⟨raised, passed⟩
            rw [raised, contributed_of_passed counts rest passed (by omega)]
            omega
        · rw [count_step_of_not counts delivered awaited]
          omega
      next => omega

end Counts

theorem counts_of_not_delivers {move : Move σ} (other : activity.delivers move = none) :
    (activity.step move).keeper.failures = activity.keeper.failures ∧
      (activity.step move).keeper.retries.toNat ≤ activity.keeper.retries.toNat := by
  cases (activity.step_effect move).2 with
  | change change kept =>
      rw [kept]
      exact ⟨change.failures_eq, change.retries_le⟩
  | take change taken =>
      rw [(Keeper.takeFlag?_some taken).2]
      exact ⟨change.failures_eq, change.retries_le⟩
  | fail delivered =>
      rw [other] at delivered
      cases delivered
  | lapse _ delivered =>
      rw [other] at delivered
      cases delivered
  | expire _ _ ended =>
      rw [ended]
      exact ⟨rfl, Nat.le_refl _⟩

def clearBeforeFailure : List (Move Memory) :=
  [.load, .connect, .hold "abcdefghijklmnop" 3600, .refresh] ++
    .enter 1 :: ([.sent 1 (.error .timeout)] ++ .clear :: [])

end Activity

end DeviceAuth
