import DeviceAuth.Proofs.Activity.Accord
import DeviceAuth.Proofs.Keeper.Schedule

/-! No gap between a token and its refresh. Settings are accepted if the refresh buffer is at
least as long as the margin of validity. The two are compared to the nanosecond, but what is
computed from them are whole seconds that fit a word: both are cut off below and bounded above.
Neither changes their order, and so a token that is held can be used up to the moment for which
its refresh is arranged. -/

namespace DeviceAuth

/-! ## Spans in words -/

namespace Span

theorem secondsWord_le_secondsWord {left right : Span} (order : left ≤ right) :
    left.secondsWord ≤ right.secondsWord := by
  have seconds : left.seconds ≤ right.seconds := Nat.div_le_div_right order
  rw [secondsWord, secondsWord]
  omega

theorem ofSeconds_lt_of_lt_secondsWord {span : Span} {count : Nat}
    (fewer : count < span.secondsWord) : ofSeconds count < span := by
  have whole : count < span.seconds := by
    rw [secondsWord] at fewer
    omega
  have bound : span.seconds * perSecond ≤ span.nanoseconds := Nat.div_mul_le_self _ _
  have step : (count + 1) * perSecond ≤ span.seconds * perSecond :=
    Nat.mul_le_mul_right _ whole
  show count * perSecond < span.nanoseconds
  rw [Nat.add_mul] at step
  unfold perSecond at step bound ⊢
  omega

end Span

/-- Accepted settings refresh a token before it no longer counts as valid. -/
theorem Settings.margin_le_buffer {settings : Settings} (accepted : settings.check = .ok ()) :
    settings.validityMargin ≤ settings.refreshBuffer := by
  apply Nat.le_of_not_lt
  intro shorter
  have less : settings.refreshBuffer < settings.validityMargin := shorter
  simp only [check, if_pos less] at accepted
  repeat' split at accepted
  all_goals cases accepted

/-! ## Arranging for a refresh -/

namespace Keeper

variable {settings : Settings} {keeper : Keeper} {now moment : UInt32}

theorem held_of_schedule {schedule : Schedule}
    (scheduled : (keeper.schedule settings now).1 = .ok schedule) (allowed : schedule ≠ .disabled)
    (present : schedule ≠ .noToken) :
    keeper.autoRefresh = true ∧ ∃ record, keeper.record = some record := by
  cases auto : keeper.autoRefresh with
  | false =>
      rw [schedule_disabled auto] at scheduled
      exact absurd (Except.ok.inj scheduled).symm allowed
  | true =>
      cases held : keeper.record with
      | none =>
          rw [schedule_noToken auto held] at scheduled
          exact absurd (Except.ok.inj scheduled).symm present
      | some record => exact ⟨rfl, record, rfl⟩

theorem schedule_of_held {record : TokenRecord} (allowed : keeper.autoRefresh = true)
    (held : keeper.record = some record) :
    (∃ moment : UInt32, moment.toNat + settings.refreshBuffer.secondsWord = record.expiry.toNat ∧
        now ≤ moment ∧ (keeper.schedule settings now).1 = .ok (.armed moment)) ∨
      (record.remaining now < settings.refreshBuffer.secondsWord ∧
        (keeper.schedule settings now).1 = .ok .immediate) ∨
      (settings.refreshBuffer.secondsWord = 0 ∧
        (keeper.schedule settings now).1 = .error .subtraction) := by
  by_cases enough : settings.refreshBuffer.secondsWord ≤ record.secondsLeft now
  case pos =>
    rcases schedule_armed allowed held enough with ⟨moment, number, ahead, armed⟩
    exact .inl ⟨moment, number, ahead, congrArg Prod.fst armed⟩
  case neg =>
    have few := Int.not_le.mp enough
    by_cases regular : 0 < settings.refreshBuffer.secondsWord ∨ 0 ≤ record.secondsLeft now
    case pos =>
      exact .inr (.inl ⟨(TokenRecord.remaining_lt_iff regular).mpr few,
        (schedule_immediate_iff allowed held regular).mpr few⟩)
    case neg =>
      rw [not_or, Nat.not_lt, Nat.le_zero, Int.not_le] at regular
      have expired := TokenRecord.secondsLeft_neg_iff.mp regular.2
      exact .inr (.inr ⟨regular.1,
        congrArg Prod.fst (schedule_passed allowed held regular.1 expired)⟩)

theorem remaining_of_schedule_immediate
    (scheduled : (keeper.schedule settings now).1 = .ok .immediate) :
    ∃ record, keeper.record = some record ∧
      record.remaining now < settings.refreshBuffer.secondsWord := by
  rcases held_of_schedule scheduled nofun nofun with ⟨allowed, record, held⟩
  rcases schedule_of_held allowed held with ⟨_, _, _, equal⟩ | ⟨few, _⟩ | ⟨_, equal⟩
  · rw [equal] at scheduled
    cases scheduled
  · exact ⟨record, held, few⟩
  · rw [equal] at scheduled
    cases scheduled

theorem expiry_of_schedule_armed
    (scheduled : (keeper.schedule settings now).1 = .ok (.armed moment)) :
    ∃ record, keeper.record = some record ∧
      moment.toNat + settings.refreshBuffer.secondsWord = record.expiry.toNat := by
  rcases held_of_schedule scheduled nofun nofun with ⟨allowed, record, held⟩
  rcases schedule_of_held allowed held with ⟨_, number, _, equal⟩ | ⟨_, equal⟩ | ⟨_, equal⟩
  · rw [equal] at scheduled
    cases scheduled
    exact ⟨record, held, number⟩
  · rw [equal] at scheduled
    cases scheduled
  · rw [equal] at scheduled
    cases scheduled

/-! ## Tokens without a gap -/

/-- The token of a keeper can be used until it is refreshed, whatever the clock shows when the
refresh is arranged for. -/
structure CoversToken (settings : Settings) (keeper : Keeper) : Prop where
  armed : ∀ now moment, (keeper.schedule settings now).1 = .ok (.armed moment) →
    ∀ earlier < moment, keeper.isTokenValid settings earlier = true
  immediate : ∀ now, (keeper.schedule settings now).1 = .ok .immediate →
    ∃ record, keeper.record = some record ∧
      Span.ofSeconds (record.remaining now) < settings.refreshBuffer
  due : ∀ now, keeper.autoRefresh = true → keeper.record ≠ none →
    keeper.isTokenValid settings now = false →
    (keeper.schedule settings now).1 = .ok .immediate ∨
      (keeper.schedule settings now).1 = .ok (.armed now) ∨
      (settings.refreshBuffer.secondsWord = 0 ∧
        (keeper.schedule settings now).1 = .error .subtraction)

theorem coversToken (accepted : settings.check = .ok ())
    (given : ∀ record, keeper.record = some record → record.token.isEmpty = false) :
    keeper.CoversToken settings := by
  have words := Span.secondsWord_le_secondsWord (Settings.margin_le_buffer accepted)
  have armed : ∀ now moment, (keeper.schedule settings now).1 = .ok (.armed moment) →
      ∀ earlier < moment, keeper.isTokenValid settings earlier = true := by
    intro now moment scheduled earlier before
    rcases expiry_of_schedule_armed scheduled with ⟨record, held, number⟩
    have numbers := UInt32.lt_iff_toNat_lt.mp before
    have left : earlier.toNat + settings.validityMargin.secondsWord < record.expiry.toNat := by
      omega
    rw [isTokenValid_of_held settings earlier held, TokenRecord.isValidAt, given record held]
    simpa using left
  refine ⟨armed, ?_, ?_⟩
  · intro now scheduled
    rcases remaining_of_schedule_immediate scheduled with ⟨record, held, few⟩
    exact ⟨record, held, Span.ofSeconds_lt_of_lt_secondsWord few⟩
  · intro now allowed present invalid
    rcases Option.ne_none_iff_exists'.mp present with ⟨record, held⟩
    rcases schedule_of_held allowed held with
      ⟨moment, _, ahead, equal⟩ | ⟨_, equal⟩ | ⟨empty, equal⟩
    · have reached : moment ≤ now := by
        rw [← UInt32.not_lt]
        intro later
        rw [armed now moment equal now later] at invalid
        cases invalid
      rw [UInt32.le_antisymm reached ahead] at equal
      exact .inr (.inl equal)
    · exact .inl equal
    · exact .inr (.inr ⟨empty, equal⟩)

end Keeper

/-! ## Runs -/

namespace Activity

variable {σ : Type} [Backend σ]

theorem given_run (settings : Settings) (address : Address) (now : UInt32) (random : Octets)
    (store : σ) (moves : List (Move σ)) :
    ∀ record, ((start settings address now random store).run moves).keeper.record = some record →
      record.token.isEmpty = false := by
  have accord : Accord ((start settings address now random store).run moves).standing.phase
      ((start settings address now random store).run moves).standing.record := by
    apply run_preserves fun activity => Accord activity.standing.phase activity.standing.record
    · intro move _ activity
      exact accord_step move
    · exact .of_none nofun nofun
  exact accord.given

/-- There is no gap between a token and its refresh. With accepted settings, whatever has
happened to a device and whatever its clock shows, the token that is held can be used until the
moment for which its refresh is arranged. So for as long as that token is kept, whatever else
happens, it is not called invalid before that moment, nor does the phase say so, unless the
clock is set back. -/
theorem coversToken_run {settings : Settings} (accepted : settings.check = .ok ())
    (address : Address) (now : UInt32) (random : Octets) (store : σ)
    (moves rest : List (Move σ)) :
    let before := start settings address now random store
    let activity := before.run moves
    let later := activity.run rest
    activity.keeper.CoversToken settings ∧
    ∀ clock moment, (activity.keeper.schedule settings clock).1 = .ok (.armed moment) →
      later.keeper.record = activity.keeper.record → later.device.now < moment →
      later.keeper.isTokenValid settings later.device.now = true ∧
        (NeverBack (moves ++ rest) before → later.keeper.phase ≠ .invalidOrMissing) := by
  intro before activity later
  have covers : activity.keeper.CoversToken settings :=
    Keeper.coversToken accepted (given_run settings address now random store moves)
  refine ⟨covers, ?_⟩
  intro clock moment scheduled kept ahead
  rcases (Keeper.held_of_schedule scheduled nofun nofun).2 with ⟨record, held⟩
  have usable := covers.armed clock moment scheduled _ ahead
  rw [Keeper.isTokenValid_of_held settings _ held] at usable
  refine ⟨?_, ?_⟩
  · rw [Keeper.isTokenValid_of_held settings _ (kept.trans held)]
    exact usable
  · intro forward invalid
    have honest : (before.run (moves ++ rest)).standing.IsHonest settings :=
      isHonest_run nofun forward
    rw [run_append] at honest
    have unusable := honest invalid record (kept.trans held)
    rw [show later.standing.now = later.device.now from rfl, usable] at unusable
    cases unusable

def narrow : Settings := {
  refreshBuffer := Span.ofParts 30 999999999
  validityMargin := Span.ofParts 30 500000000
}

theorem coversToken_narrow :
    let activity := (start narrow ⟨[0, 0, 0, 0, 0, 0], rfl⟩ 1000 [] ({} : Memory)).run
      [.load, .hold "abcdefghijklmnop" 3600]
    let later := activity.run [.surroundings 4569 [] {}]
    narrow.check = .ok () ∧ (activity.keeper.schedule narrow 1000).1 = .ok (.armed 4570) ∧
      later.keeper.record = activity.keeper.record ∧
      later.keeper.isTokenValid narrow 4569 = true ∧
      later.keeper.phase ≠ .invalidOrMissing := by
  intro activity later
  have accepted : narrow.check = .ok () := by decide +kernel
  have scheduled : (activity.keeper.schedule narrow 1000).1 = .ok (.armed 4570) := by
    decide +kernel
  have kept : later.keeper.record = activity.keeper.record := rfl
  have uncovered := (coversToken_run accepted ⟨[0, 0, 0, 0, 0, 0], rfl⟩ 1000 [] ({} : Memory)
    [.load, .hold "abcdefghijklmnop" 3600] [.surroundings 4569 [] {}]).2 1000 4570 scheduled kept
      (by decide)
  exact ⟨accepted, scheduled, kept, uncovered.1, uncovered.2 (by decide +kernel)⟩

end Activity

end DeviceAuth
