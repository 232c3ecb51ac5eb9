import DeviceAuth.Proofs.Activity.Standing
import DeviceAuth.Proofs.Storage.Records

/-! The phase of a keeper and the token that it holds. The phase is a verdict that was
passed at some time, and the token may have changed or expired since. What can be told
from the phase at any time is shown here, whatever the store does; and as long as the
clock is not set back, a token that can be used is not called invalid or missing. -/

namespace DeviceAuth

structure Accord (phase : Phase) (record : Option TokenRecord) : Prop where
  given : ∀ held, record = some held → held.token.isEmpty = false
  missing : phase = .uninitialized ∨ phase = .initialized → record = none
  held : phase = .valid ∨ phase = .refreshInProgress → record ≠ none

namespace Accord

variable {phase : Phase} {record : Option TokenRecord}

theorem of_none (invalid : phase ≠ .valid) (idle : phase ≠ .refreshInProgress) :
    Accord phase none where
  given _ held := by cases held
  missing _ := rfl
  held kept := by
    rcases kept with valid | refreshing
    · exact absurd valid invalid
    · exact absurd refreshing idle

theorem verdict (settings : Settings) (now : UInt32)
    (given : ∀ held, record = some held → held.token.isEmpty = false) :
    Accord (Keeper.verdict settings now record) record where
  given := given
  missing early := by
    rcases Keeper.verdict_cases settings now record with judged | judged
    all_goals
      rw [judged] at early
      simp at early
  held kept := by
    rcases Keeper.verdict_cases settings now record with judged | judged
    · obtain ⟨held, found, _⟩ := Keeper.verdict_eq_valid_iff.mp judged
      rw [found]
      nofun
    · rw [judged] at kept
      simp at kept

theorem request (accord : Accord phase record) (held : record ≠ none) :
    Accord .refreshInProgress record where
  given := accord.given
  missing early := by simp at early
  held _ := held

theorem given_renewed {record : TokenRecord} (given : record.token.isEmpty = false)
    (now lifetime : UInt32) (token : Option String) :
    (record.renewed now lifetime token).token.isEmpty = false := by
  unfold TokenRecord.renewed
  cases token with
  | none => exact given
  | some rotated =>
      cases empty : rotated.isEmpty with
      | true =>
          simp only [Option.filter, empty]
          exact given
      | false => simp [Option.filter, empty]

end Accord

theorem TokenRecord.isValidAt_of_le {record : TokenRecord} {now later : UInt32}
    (order : now ≤ later) {margin : Nat} (valid : record.isValidAt later margin = true) :
    record.isValidAt now margin = true := by
  have numbers : now.toNat ≤ later.toNat := UInt32.le_iff_toNat_le.mp order
  simp only [TokenRecord.isValidAt, Bool.and_eq_true, decide_eq_true_eq] at valid ⊢
  exact ⟨valid.1, by omega⟩

namespace Standing

variable {σ : Type} {settings : Settings}

theorem accord_holding (settings : Settings) {record : TokenRecord}
    (given : record.token.isEmpty = false) (store : σ) (standing : Standing σ) :
    Accord (standing.holding settings record store).phase
      (standing.holding settings record store).record := by
  rw [phase_holding, record_holding]
  apply Accord.verdict
  intro held found
  obtain rfl : record = held := Option.some.inj found
  exact given

/-- A token that is called invalid or missing cannot be used. -/
def IsHonest (settings : Settings) (standing : Standing σ) : Prop :=
  standing.phase = .invalidOrMissing → ∀ record, standing.record = some record →
    record.isValidAt standing.now settings.validityMargin.secondsWord = false

theorem isHonest_judged (standing : Standing σ) :
    (standing.judged settings).IsHonest settings := by
  intro invalid record held
  by_contra valid
  have judged : Keeper.verdict settings standing.now standing.record = .valid :=
    Keeper.verdict_eq_valid_iff.mpr ⟨record, held, by simpa using valid⟩
  rw [phase_judged, judged] at invalid
  cases invalid

theorem isHonest_of_none {standing : Standing σ} (missing : standing.record = none) :
    standing.IsHonest settings := by
  intro _ record held
  rw [missing] at held
  cases held

variable [Backend σ] {address : Address} {before after : Standing σ} {move : Move σ}

/-! ## Phases -/

theorem Passes.accord (passes : Passes settings address before move after)
    (accord : Accord before.phase before.record) : Accord after.phase after.record := by
  cases passes with
  | same => exact accord
  | surround => exact accord
  | judge => exact .verdict settings _ accord.given
  | giveUp => exact .of_none nofun nofun
  | request held => exact accord.request held
  | unread => exact accord
  | beginEmpty uninitialized =>
      have none : before.record = none := accord.missing (.inl uninitialized)
      show Accord .initialized before.record
      rw [none]
      exact .of_none nofun nofun
  | beginWith uninitialized read =>
      exact accord_holding settings (Credentials.token_of_loadRecord read) _ before
  | refuse => exact accord
  | @hold token lifetime given =>
      have new : (before.newRecord address token lifetime).token.isEmpty = false := given
      exact accord_holding settings new _ before
  | renew read initialized held =>
      exact accord_holding settings (Accord.given_renewed (accord.given _ held) _ _ _) _ before
  | miss initialized missing =>
      show Accord .invalidOrMissing before.record
      rw [missing]
      exact .of_none nofun nofun
  | reject => exact .of_none nofun nofun
  | clear =>
      dsimp only
      split
      · exact .of_none nofun nofun
      · exact .of_none nofun nofun
  | shutdown => exact .of_none nofun nofun

structure Gates (before : Standing σ) (move : Move σ) (after : Standing σ) : Prop where
  leave : before.phase = .uninitialized → after.phase ≠ .uninitialized →
    move = .load ∧ ∃ stored store, Credentials.loadRecord.perform before.store = (.ok stored, store)
  enter : before.phase ≠ .uninitialized → after.phase = .uninitialized → move = .shutdown
  begin : before.phase ≠ .initialized → after.phase = .initialized → move = .load

theorem Gates.of_same (phase : after.phase = before.phase) : Gates before move after where
  leave uninitialized left := absurd (phase.trans uninitialized) left
  enter initialized entered := absurd (phase.symm.trans entered) initialized
  begin other entered := absurd (phase.symm.trans entered) other

theorem Gates.of_kept (initialized : before.phase ≠ .uninitialized)
    (kept : after.phase ≠ .uninitialized) (begun : after.phase ≠ .initialized) :
    Gates before move after where
  leave uninitialized _ := absurd uninitialized initialized
  enter _ entered := absurd entered kept
  begin _ entered := absurd entered begun

theorem Passes.gates (passes : Passes settings address before move after) :
    Gates before move after := by
  have settled : ∀ (now : UInt32) (record : Option TokenRecord),
      Keeper.verdict settings now record ≠ .uninitialized ∧
        Keeper.verdict settings now record ≠ .initialized := by
    intro now record
    rcases Keeper.verdict_cases settings now record with judged | judged
    all_goals
      rw [judged]
      exact ⟨nofun, nofun⟩
  have holding : ∀ (record : TokenRecord) (store : σ), before.phase ≠ .uninitialized →
      Gates before move (before.holding settings record store) := by
    intro record store initialized
    have later := settled before.now (some record)
    exact .of_kept initialized later.1 later.2
  cases passes with
  | same => exact .of_same rfl
  | surround => exact .of_same rfl
  | judge refreshing =>
      exact .of_kept (by rw [refreshing]; nofun) (settled _ _).1 (settled _ _).2
  | giveUp refreshing => exact .of_kept (by rw [refreshing]; nofun) nofun nofun
  | request held initialized => exact .of_kept initialized nofun nofun
  | unread => exact .of_same rfl
  | beginEmpty uninitialized read =>
      exact {
        leave := fun _ _ => ⟨rfl, _, _, read⟩
        enter := fun initialized _ => absurd uninitialized initialized
        begin := fun _ _ => rfl }
  | beginWith uninitialized read =>
      exact {
        leave := fun _ _ => ⟨rfl, _, _, read⟩
        enter := fun initialized _ => absurd uninitialized initialized
        begin := fun _ _ => rfl }
  | refuse => exact .of_same rfl
  | hold given initialized => exact holding _ _ initialized
  | renew read initialized => exact holding _ _ initialized
  | miss initialized => exact .of_kept initialized nofun nofun
  | reject read initialized => exact .of_kept initialized nofun nofun
  | clear =>
      by_cases uninitialized : before.phase = .uninitialized
      · apply Gates.of_same
        rw [if_pos uninitialized, uninitialized]
      · rw [if_neg uninitialized]
        exact .of_kept uninitialized nofun nofun
  | shutdown =>
      exact {
        leave := fun _ left => absurd rfl left
        enter := fun _ _ => rfl
        begin := nofun }

/-! ## The clock -/

theorem Passes.isHonest (passes : Passes settings address before move after)
    (honest : before.IsHonest settings) (forward : before.now ≤ after.now) :
    after.IsHonest settings := by
  cases passes with
  | same => exact honest
  | surround =>
      intro invalid record held
      by_contra valid
      have earlier := TokenRecord.isValidAt_of_le forward (by simpa using valid)
      rw [honest invalid record held] at earlier
      cases earlier
  | judge => exact isHonest_judged before
  | giveUp => exact isHonest_of_none rfl
  | request => nofun
  | unread => exact honest
  | beginEmpty => nofun
  | beginWith => exact isHonest_judged _
  | refuse => exact honest
  | hold => exact isHonest_judged _
  | renew => exact isHonest_judged _
  | miss initialized missing => exact isHonest_of_none missing
  | reject => exact isHonest_of_none rfl
  | clear => exact isHonest_of_none rfl
  | shutdown => exact isHonest_of_none rfl

end Standing

namespace Activity

variable {σ : Type} [Backend σ]

/-! ## Runs -/

def NeverBack : List (Move σ) → Activity σ → Prop
  | [], _ => True
  | move :: rest, activity =>
      activity.device.now ≤ (activity.step move).device.now ∧ NeverBack rest (activity.step move)

instance decidableNeverBack : (moves : List (Move σ)) → (activity : Activity σ) →
    Decidable (NeverBack moves activity)
  | [], _ => .isTrue trivial
  | move :: rest, activity =>
      have := decidableNeverBack rest (activity.step move)
      inferInstanceAs (Decidable (_ ∧ NeverBack rest (activity.step move)))

theorem accord_step (move : Move σ) {activity : Activity σ}
    (accord : Accord activity.standing.phase activity.standing.record) :
    Accord (activity.step move).standing.phase (activity.step move).standing.record :=
  (activity.step_goes move).accord accord

theorem gates_step (move : Move σ) (activity : Activity σ) :
    Standing.Gates activity.standing move (activity.step move).standing :=
  (activity.step_goes move).gates

theorem isHonest_run {moves : List (Move σ)} {activity : Activity σ}
    (honest : activity.standing.IsHonest activity.device.settings)
    (forward : NeverBack moves activity) :
    (activity.run moves).standing.IsHonest activity.device.settings := by
  induction moves generalizing activity with
  | nil => exact honest
  | cons move rest induction =>
      have kept := (activity.step_goes move).isHonest honest forward.1
      rw [← (activity.step_effect move).1] at kept ⊢
      exact induction kept forward.2

/-- The phase of a device tells what is held after every run, and only few moves lead out
of the first phases and into them. If the clock is not set back, a token that can be
used is called valid, or is being refreshed. -/
theorem accord_run (settings : Settings) (address : Address) (now : UInt32) (random : Octets)
    (store : σ) (moves : List (Move σ)) :
    let before := start settings address now random store
    let activity := before.run moves
    Accord activity.keeper.phase activity.keeper.record ∧
      (∀ move, Standing.Gates activity.standing move (activity.step move).standing) ∧
      (NeverBack moves before →
        activity.keeper.isTokenValid settings activity.device.now = true →
        activity.keeper.phase = .valid ∨ activity.keeper.phase = .refreshInProgress) := by
  intro before activity
  have accord : Accord activity.standing.phase activity.standing.record := by
    apply run_preserves fun activity => Accord activity.standing.phase activity.standing.record
    · intro move _ activity
      exact accord_step move
    · exact .of_none nofun nofun
  refine ⟨accord, fun move => gates_step move activity, ?_⟩
  intro forward valid
  have honest : activity.standing.IsHonest settings := isHonest_run nofun forward
  have usable : ∃ record, activity.keeper.record = some record ∧
      record.isValidAt activity.device.now settings.validityMargin.secondsWord = true := by
    unfold Keeper.isTokenValid at valid
    split at valid
    next record held => exact ⟨record, held, valid⟩
    next => cases valid
  obtain ⟨record, held, usable⟩ := usable
  have present : activity.keeper.record ≠ none := by
    rw [held]
    nofun
  cases phase : activity.keeper.phase with
  | uninitialized => exact absurd (accord.missing (.inl phase)) present
  | initialized => exact absurd (accord.missing (.inr phase)) present
  | valid => exact .inl rfl
  | refreshInProgress => exact .inr rfl
  | invalidOrMissing =>
      have unusable := honest phase record held
      rw [show activity.standing.now = activity.device.now from rfl, usable] at unusable
      cases unusable

def letTimePass : List (Move Memory) :=
  [.load, .hold "abcdefghijklmnop" 3600, .surroundings 2000 [] {}]

theorem accord_letTimePass :
    NeverBack letTimePass sample ∧
      (sample.run letTimePass).keeper.isTokenValid {} (sample.run letTimePass).device.now = true ∧
      ((sample.run letTimePass).keeper.phase = .valid ∨
        (sample.run letTimePass).keeper.phase = .refreshInProgress) := by
  have forward : NeverBack letTimePass sample := by decide +kernel
  have valid : (sample.run letTimePass).keeper.isTokenValid {}
      (sample.run letTimePass).device.now = true := by decide +kernel
  exact ⟨forward, valid, (accord_run _ _ _ _ _ letTimePass).2.2 forward valid⟩

end Activity

end DeviceAuth
