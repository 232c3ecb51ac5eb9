import DeviceAuth.Proofs.Activity.Retries
import DeviceAuth.Proofs.Keeper.Origins

/-! The tasks of a device during a run. The timer that the keeper remembers is the only one, and
while no token is held there is neither a timer nor a watchdog. Refreshes that were launched
before may still begin then, but they find nothing to refresh. -/

namespace DeviceAuth

namespace Activity

variable {σ : Type} [Backend σ] {activity : Activity σ}

theorem owned_step (owned : activity.keeper.Owned)
    (present : activity.keeper.phase = .refreshInProgress → activity.keeper.record ≠ none)
    (move : Move σ) : (activity.step move).keeper.Owned := by
  cases (activity.step_effect move).2 with
  | change change kept =>
      rw [kept]
      exact owned.change change
  | take change taken => exact (owned.change change).takeFlag taken
  | fail _ failed =>
      rw [failed]
      exact owned.failRefresh present _ _ _ _
  | @lapse task _ _ _ _ failed =>
      rw [failed]
      exact (owned.endTask task).failRefresh present _ _ _ _
  | expire _ _ ended =>
      rw [ended]
      exact owned.endTask _

/-- The tasks are the keeper's own, and a token is held while an answer is waited for. -/
structure Attended (activity : Activity σ) : Prop where
  owned : activity.keeper.Owned
  accord : Accord activity.keeper.phase activity.keeper.record

omit [Backend σ] in
theorem Attended.held (attended : activity.Attended)
    (refreshing : activity.keeper.phase = .refreshInProgress) : activity.keeper.record ≠ none :=
  attended.accord.held (.inr refreshing)

theorem Attended.step (attended : activity.Attended) (move : Move σ) :
    (activity.step move).Attended :=
  ⟨owned_step attended.owned attended.held move, accord_step move attended.accord⟩

theorem Attended.run (attended : activity.Attended) (moves : List (Move σ)) :
    (activity.run moves).Attended :=
  run_preserves Attended (fun move _ _ attended => attended.step move) activity attended

theorem attended_run (settings : Settings) (address : Address) (now : UInt32) (random : Octets)
    (store : σ) (moves : List (Move σ)) :
    ((start settings address now random store).run moves).Attended := by
  have begun : (start settings address now random store).Attended :=
    ⟨.create settings, .of_none nofun nofun⟩
  exact begun.run moves

/-- After every run there is at most one timer, which is the one that is remembered. If no token
is held, there is neither a timer nor a watchdog, and no request is made before a token is
stored or loaded. -/
theorem timers_run (settings : Settings) (address : Address) (now : UInt32) (random : Octets)
    (store : σ) (moves : List (Move σ)) :
    let activity := (start settings address now random store).run moves
    (activity.keeper.timers = [] ∨ ∃ id delay, activity.keeper.timer = some id ∧
      activity.keeper.timers = [⟨id, .launchAfter delay⟩]) ∧
    (activity.keeper.record = none →
      (∀ task ∈ activity.keeper.tasks, task.duty.isTimer = false ∧ task.duty.isWatch = false) ∧
      ∀ later, activity.Without Obtains later →
        ∀ call generation, ¬ (activity.run later).Requests generation call) := by
  intro activity
  have attended : activity.Attended := attended_run settings address now random store moves
  refine ⟨attended.owned.tidy.timers_eq, fun missing => ⟨?_, ?_⟩⟩
  · intro task member
    rw [attended.owned.eq_refresh_of_missing attended.held missing member]
    exact ⟨rfl, rfl⟩
  · intro later without call generation requests
    -- A request is made from the token that is held.
    have held := (requests_iff.mp requests).2.2.1
    rw [record_run_of_without_obtains missing without] at held
    cases held

def sendFromToken : List (Move Memory) :=
  [.load, .connect, .hold "abcdefghijklmnop" 3600, .arrange 0, .refresh, .enter 1]

theorem timers_sendFromToken :
    (∃ id delay, (sample.run sendFromToken).keeper.timer = some id ∧
      (sample.run sendFromToken).keeper.timers = [⟨id, .launchAfter delay⟩]) ∧
    (sample.run (sendFromToken ++ [.clear])).keeper.record = none ∧
      (∀ task ∈ (sample.run (sendFromToken ++ [.clear])).keeper.tasks,
        task.duty.isTimer = false ∧ task.duty.isWatch = false) ∧
      ∀ call generation, ¬ ((sample.run (sendFromToken ++ [.clear])).run
        [.sent 1 (.error .timeout), .report 1, .refresh]).Requests generation call := by
  have missing : (sample.run (sendFromToken ++ [.clear])).keeper.record = none := by
    decide +kernel
  have without : (sample.run (sendFromToken ++ [.clear])).Without Obtains
      [.sent 1 (.error .timeout), .report 1, .refresh] := by
    refine ⟨?_, ?_, ?_, trivial⟩
    all_goals
      intro obtains
      cases obtains
  have armed : (sample.run sendFromToken).keeper.timers ≠ [] := by decide +kernel
  have owned := timers_run {} ⟨List.replicate 6 0, rfl⟩ 1000 [] ({} : Memory) sendFromToken
  have cleared := timers_run {} ⟨List.replicate 6 0, rfl⟩ 1000 [] ({} : Memory)
    (sendFromToken ++ [.clear])
  exact ⟨owned.1.resolve_left armed, missing, (cleared.2 missing).1,
    (cleared.2 missing).2 _ without⟩

end Activity

end DeviceAuth
