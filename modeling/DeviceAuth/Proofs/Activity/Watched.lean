import DeviceAuth.Proofs.Activity.Flag
import DeviceAuth.Proofs.Activity.Retries
import Mathlib.Data.List.Induction

/-! Answers that are watched. Whatever happens to a device, a flag that is taken will be given
back. There is also a watchdog for every answer that is waited for, as long as the refreshes
that fail in a row can be counted: a failure that cannot be counted ends the watchdog, and goes
on waiting. -/

namespace DeviceAuth

namespace Activity

variable {σ : Type} [Backend σ] {activity : Activity σ}

/-! ## Failures that can be counted -/

theorem retries_step_le (move : Move σ) (activity : Activity σ) :
    (activity.step move).keeper.retries.toNat ≤ activity.keeper.retries.toNat + 1 := by
  cases activity.step_tallies move with
  | kept kept =>
      rw [kept.retries]
      exact Nat.le_succ _
  | reset _ fresh =>
      rw [fresh.retries]
      exact Nat.zero_le _
  | raised _ raised =>
      rw [raised.retries]

theorem retries_run_le (moves : List (Move σ)) (activity : Activity σ) :
    (activity.run moves).keeper.retries.toNat ≤ activity.keeper.retries.toNat + moves.length := by
  induction moves generalizing activity with
  | nil => exact Nat.le_refl _
  | cons move rest induction =>
      have first := retries_step_le move activity
      have others := induction (activity.step move)
      rw [run, List.length_cons]
      omega

/-- So few refreshes can fail in a row in so many moves that a word can count them: the token
is given up before, or the moves are too few. -/
def IsCountable (settings : Settings) (moves : Nat) : Prop :=
  settings.refreshRetries < UInt32.size - 1 ∨ moves < UInt32.size

instance (settings : Settings) (moves : Nat) : Decidable (IsCountable settings moves) :=
  inferInstanceAs (Decidable (_ ∨ _))

theorem not_isFull_run (settings : Settings) (address : Address) (now : UInt32)
    (random : Octets) (store : σ) (moves : List (Move σ))
    (countable : IsCountable settings (moves.length + 1))
    (refreshing : ((start settings address now random store).run moves).keeper.phase =
      .refreshInProgress) :
    ¬ ((start settings address now random store).run moves).keeper.IsFull := by
  have begun : ((start settings address now random store).keeper.retries).toNat = 0 := rfl
  unfold Keeper.IsFull
  rcases countable with limited | few
  · have counting := (counting_start settings address now random store).run limited moves
    have bound := counting.retries_le refreshing
    omega
  · have bound := retries_run_le moves (start settings address now random store)
    omega

/-! ## Watchdogs -/

theorem guarded_step (guarded : activity.keeper.Guarded)
    (countable : activity.keeper.phase = .refreshInProgress → ¬ activity.keeper.IsFull)
    {move : Move σ} (prompt : move.isPrompt = true) :
    (activity.step move).keeper.Guarded := by
  cases (activity.step_effect move).2 with
  | change change kept =>
      rw [kept]
      exact guarded.change change
  | take change taken =>
      rw [(Keeper.takeFlag?_some taken).2]
      exact (guarded.change change).of_same rfl rfl
  | fail _ failed =>
      rw [failed]
      exact guarded.failRefresh countable _ _ _ _
  | lapse _ _ failed =>
      rw [failed]
      apply Keeper.Guarded.failRefresh
      · exact guarded.of_same rfl rfl
      · exact countable
  | expire waits =>
      rw [waits] at prompt
      cases prompt

theorem guarded_run (settings : Settings) (address : Address) (now : UInt32)
    (random : Octets) (store : σ) {moves : List (Move σ)} (prompt : IsPrompt moves)
    (countable : IsCountable settings moves.length) :
    ((start settings address now random store).run moves).keeper.Guarded := by
  induction moves using List.reverseRecOn with
  | nil => exact Keeper.Guarded.create settings
  | append_singleton moves move induction =>
      have earlier : IsPrompt moves := fun other member =>
        prompt other (List.mem_append_left _ member)
      have last : move.isPrompt = true := prompt move (by simp)
      rw [List.length_append, List.length_singleton] at countable
      have fewer : IsCountable settings moves.length := countable.imp_right Nat.lt_of_succ_lt
      rw [run_concat]
      apply guarded_step (induction earlier fewer)
      · exact not_isFull_run settings address now random store moves countable
      · exact last

/-- A watchdog ends whose failure cannot be counted. The answer is waited for as before, and
without a watchdog. -/
theorem unwatched_wake {task : Nat} {generation : UInt64} {limit : Span}
    (sound : activity.keeper.Sound activity.device.settings)
    (armed : activity.keeper.duty? task = some (.watch generation limit))
    (full : activity.keeper.IsFull) :
    (activity.step (.wake task)).keeper.phase = .refreshInProgress ∧
      (activity.step (.wake task)).keeper.watchdogs = [] := by
  have awaited := (sound.isAwaited_of_mem ((sound.tidy.duty?_eq_some_iff _ _).mp armed)).1
  have awaitedAfter : (activity.keeper.endTask task).IsAwaited generation := awaited
  have fullAfter : (activity.keeper.endTask task).IsFull := full
  have ended : (activity.step (.wake task)).keeper = (activity.keeper.endTask task).endWait := by
    rw [step_wake armed]
    exact congrArg (·.2.1)
      (Keeper.failRefresh_of_isFull _ Device.noAnswer _ awaitedAfter fullAfter)
  rw [ended]
  refine ⟨awaited.2, List.filter_eq_nil_iff.mpr fun other member isWatch => ?_⟩
  rw [Keeper.endWait, Keeper.mem_tasks_cancelWatchdog] at member
  have old := ((Keeper.mem_tasks_endTask _ _).mp member.1).1
  exact member.2 (sound.tidy.watchdog_of_isWatch other old isWatch)

/-! ## All of it -/

def sendRefresh : List (Move Memory) :=
  [.load, .connect, .hold "abcdefghijklmnop" 3600, .refresh, .enter 1, .sent 1 (.ok ())]

end Activity

end DeviceAuth
