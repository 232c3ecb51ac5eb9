import DeviceAuth.Proofs.Keeper.Change

/-! The failures that a keeper tells of. A failed refresh is told of once and raises the
count of failures by one, if its answer is waited for; nothing else does either. -/

namespace DeviceAuth

def AuthEvent.isFailure : AuthEvent → Bool
  | .refreshFailed _ _ => true
  | _ => false

namespace Keeper

variable {keeper after : Keeper} {settings : Settings}

def failures (keeper : Keeper) : Nat := keeper.events.countP AuthEvent.isFailure

theorem failures_emit (event : AuthEvent) (keeper : Keeper) :
    (keeper.emit event).failures = keeper.failures + if event.isFailure then 1 else 0 := by
  simp [failures, emit, List.countP_append, List.countP_cons]

theorem failures_emit_of_not {event : AuthEvent} (other : event.isFailure = false) :
    (keeper.emit event).failures = keeper.failures := by
  rw [failures_emit, other]
  rfl

theorem failures_countFailure (attempt : UInt32) (reason : String) :
    (keeper.countFailure attempt reason).failures = keeper.failures + 1 :=
  failures_emit _ _

theorem failRefresh_of_isAwaited (now : UInt32) {generation : UInt64} (reason : String)
    (random : Octets) (awaited : keeper.IsAwaited generation) (countable : ¬ keeper.IsFull) :
    (keeper.failRefresh settings now generation reason random).2.1.failures =
        keeper.failures + 1 ∧
      (keeper.failRefresh settings now generation reason random).2.1.retries.toNat =
        keeper.retries.toNat + 1 ∧
      (keeper.failRefresh settings now generation reason random).2.1.phase ≠
        .refreshInProgress := by
  have counted := fun attempt => keeper.failures_countFailure attempt reason
  have fails := failRefresh_failsTo settings now reason random awaited
  generalize keeper.failRefresh settings now generation reason random = answer at fails ⊢
  cases fails with
  | exhausted number =>
      rw [failures_emit_of_not rfl]
      exact ⟨counted _, number.symm, nofun⟩
  | retried number => exact ⟨counted _, number.symm, phase_settle_ne settings now _⟩
  | endless number => exact ⟨counted _, number.symm, phase_settle_ne settings now _⟩
  | full full => exact absurd full countable

theorem failRefresh_of_isFull (now : UInt32) {generation : UInt64} (reason : String)
    (random : Octets) (awaited : keeper.IsAwaited generation) (full : keeper.IsFull) :
    keeper.failRefresh settings now generation reason random =
      (.error .addition, keeper.endWait, random) := by
  have fails := failRefresh_failsTo settings now reason random awaited
  generalize keeper.failRefresh settings now generation reason random = answer at fails ⊢
  cases fails with
  | exhausted number => exact absurd full (not_isFull number)
  | retried number => exact absurd full (not_isFull number)
  | endless number => exact absurd full (not_isFull number)
  | full => rfl

namespace Change

theorem failures_eq (change : Change settings keeper after) :
    after.failures = keeper.failures := by
  cases change with
  | tell event noFailure =>
      apply failures_emit_of_not
      cases event with
      | refreshFailed attempt reason => exact absurd rfl (noFailure attempt reason)
      | _ => rfl
  | confirm => exact failures_emit_of_not rfl
  | enter request =>
      rcases enterRefresh_ok request with ⟨_, _, _, _, _, rfl⟩
      rfl
  | abandon now generation =>
      unfold abandonRefresh settleAbandoned
      split
      all_goals rfl
  | schedule now =>
      obtain ⟨_, _, _, equal⟩ := schedule_keeps settings now keeper
      rw [equal]
      rfl
  | start now stored =>
      cases stored
      all_goals rfl
  | replace => exact failures_emit_of_not rfl
  | renew => exact failures_emit_of_not rfl
  | reject => exact failures_emit_of_not rfl
  | wipe => exact failures_emit_of_not rfl
  | _ => rfl

theorem retries_le (change : Change settings keeper after) :
    after.retries.toNat ≤ keeper.retries.toNat := by
  cases change with
  | enter request =>
      rcases enterRefresh_ok request with ⟨_, _, _, _, _, rfl⟩
      exact Nat.le_refl _
  | abandon now generation =>
      unfold abandonRefresh settleAbandoned
      split
      all_goals exact Nat.le_refl _
  | schedule now =>
      obtain ⟨_, _, _, equal⟩ := schedule_keeps settings now keeper
      exact Nat.le_of_eq (by rw [equal])
  | start now stored =>
      cases stored
      all_goals exact Nat.zero_le _
  | confirm => exact Nat.zero_le _
  | replace => exact Nat.zero_le _
  | renew => exact Nat.zero_le _
  | _ => exact Nat.le_refl _

end Change

end Keeper

end DeviceAuth
