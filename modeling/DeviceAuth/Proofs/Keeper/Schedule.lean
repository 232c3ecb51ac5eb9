import DeviceAuth.Proofs.Keeper.Retries

/-! When the next refresh takes place. A token is refreshed when just the buffer is left of its
lifetime, and at once if less is left. Here the seconds that are left are counted with a sign,
so that a token which has expired has less than none. Words have no sign: the count that is kept
in them stops at none, and the two counts part where the buffer is empty. -/

namespace DeviceAuth

/-! ## Seconds -/

namespace Span

theorem secondsWord_lt (span : Span) : span.secondsWord < UInt32.size := by
  rw [secondsWord, UInt32.size]
  omega

theorem secondsWord_of_lt {span : Span} (short : span.seconds < UInt32.size) :
    span.secondsWord = span.seconds := by
  rw [secondsWord]
  omega

theorem toNat_secondsWord (span : Span) :
    (UInt32.ofNat span.secondsWord).toNat = span.secondsWord :=
  UInt32.toNat_ofNat_of_lt' span.secondsWord_lt

end Span

namespace TokenRecord

def secondsLeft (record : TokenRecord) (now : UInt32) : Int :=
  record.expiry.toNat - now.toNat

theorem secondsLeft_neg_iff {record : TokenRecord} {now : UInt32} :
    record.secondsLeft now < 0 ↔ record.expiry < now := by
  rw [secondsLeft, UInt32.lt_iff_toNat_lt]
  omega

theorem remaining_lt_iff {record : TokenRecord} {now : UInt32} {buffer : Nat}
    (regular : 0 < buffer ∨ 0 ≤ record.secondsLeft now) :
    record.remaining now < buffer ↔ record.secondsLeft now < buffer := by
  rw [secondsLeft] at *
  rw [remaining]
  omega

end TokenRecord

theorem le_expiryAfter (now lifetime : UInt32) : now ≤ expiryAfter now lifetime := by
  have bound := now.toNat_lt
  rw [UInt32.le_iff_toNat_le, toNat_expiryAfter, UInt32.size]
  omega

/-! ## Arranging for a refresh -/

namespace Keeper

variable {keeper : Keeper} {settings : Settings} {record : TokenRecord} {now : UInt32}

theorem dueMoment_eq_ok_iff {expiry buffer now moment seconds : UInt32} :
    dueMoment expiry buffer now = .ok (moment, seconds) ↔
      expiry.toNat = moment.toNat + buffer.toNat ∧ moment.toNat = seconds.toNat + now.toNat := by
  rw [dueMoment, ← Word.subtract_eq_ok_iff, ← Word.subtract_eq_ok_iff]
  cases Word.subtract expiry buffer with
  | error => simp [bind, Except.bind]
  | ok first =>
      simp only [bind, Except.bind]
      cases second : Word.subtract first now with
      | error =>
          simp only [reduceCtorEq, false_iff, Except.ok.injEq]
          rintro ⟨rfl, other⟩
          simp [second] at other
      | ok left =>
          simp only [pure, Except.pure, Except.ok.injEq, Prod.mk.injEq, and_congr_right_iff]
          rintro rfl
          simp [second]

theorem schedule_disabled (refused : keeper.autoRefresh = false) :
    keeper.schedule settings now = (.ok .disabled, keeper.cancelTimer) := by
  have cleared : keeper.cancelTimer.autoRefresh = false := refused
  simp [schedule, cleared]

theorem schedule_noToken (allowed : keeper.autoRefresh = true) (missing : keeper.record = none) :
    keeper.schedule settings now = (.ok .noToken, keeper.cancelTimer) := by
  have cleared : keeper.cancelTimer.autoRefresh = true := allowed
  have kept : keeper.cancelTimer.record = none := missing
  simp [schedule, cleared, kept]

section Held

variable (allowed : keeper.autoRefresh = true) (held : keeper.record = some record)

include allowed held

theorem schedule_immediate (soon : record.remaining now < settings.refreshBuffer.secondsWord) :
    keeper.schedule settings now = (.ok .immediate, keeper.cancelTimer.launchRefresh) := by
  have cleared : keeper.cancelTimer.autoRefresh = true := allowed
  have kept : keeper.cancelTimer.record = some record := held
  simp [schedule, cleared, kept, soon]

theorem schedule_armed (enough : settings.refreshBuffer.secondsWord ≤ record.secondsLeft now) :
    ∃ moment : UInt32, moment.toNat + settings.refreshBuffer.secondsWord = record.expiry.toNat ∧
      now ≤ moment ∧ keeper.schedule settings now = (.ok (.armed moment),
        keeper.cancelTimer.armTimer (Span.ofSeconds (moment.toNat - now.toNat))) := by
  have cleared : keeper.cancelTimer.autoRefresh = true := allowed
  have kept : keeper.cancelTimer.record = some record := held
  have word := settings.refreshBuffer.toNat_secondsWord
  rw [TokenRecord.secondsLeft] at enough
  have notSoon : ¬ record.remaining now < settings.refreshBuffer.secondsWord := by
    rw [TokenRecord.remaining]
    omega
  cases due : dueMoment record.expiry (UInt32.ofNat settings.refreshBuffer.secondsWord) now with
  | error panic =>
      have passed := (dueMoment_eq_error_iff.mp due).2
      omega
  | ok answer =>
      obtain ⟨moment, seconds⟩ := answer
      obtain ⟨sum, rest⟩ := dueMoment_eq_ok_iff.mp due
      have left : moment.toNat - now.toNat = seconds.toNat := by omega
      refine ⟨moment, by omega, ?_, ?_⟩
      · rw [UInt32.le_iff_toNat_le]
        omega
      · rw [left]
        simp [schedule, cleared, kept, notSoon, due]

theorem schedule_immediate_iff
    (regular : 0 < settings.refreshBuffer.secondsWord ∨ 0 ≤ record.secondsLeft now) :
    (keeper.schedule settings now).1 = .ok .immediate ↔
      record.secondsLeft now < settings.refreshBuffer.secondsWord := by
  constructor
  · intro launched
    by_contra enough
    rcases schedule_armed allowed held (Int.not_lt.mp enough) with ⟨_, _, _, armed⟩
    simp [armed] at launched
  · intro few
    rw [schedule_immediate allowed held ((TokenRecord.remaining_lt_iff regular).mpr few)]

theorem schedule_passed (empty : settings.refreshBuffer.secondsWord = 0)
    (expired : record.expiry < now) :
    keeper.schedule settings now = (.error .subtraction, keeper.cancelTimer) := by
  have cleared : keeper.cancelTimer.autoRefresh = true := allowed
  have kept : keeper.cancelTimer.record = some record := held
  have due : dueMoment record.expiry 0 now = .error .subtraction := by
    rw [UInt32.lt_iff_toNat_lt] at expired
    exact dueMoment_eq_error_iff.mpr ⟨rfl, by simpa using expired⟩
  simp [schedule, cleared, kept, empty, due]

end Held

theorem schedule_eq_error_iff {panic : Panic} :
    (keeper.schedule settings now).1 = .error panic ↔ panic = .subtraction ∧
      keeper.autoRefresh = true ∧ settings.refreshBuffer.secondsWord = 0 ∧
        ∃ record, keeper.record = some record ∧ record.expiry < now := by
  constructor
  case mp =>
    intro late
    cases allowed : keeper.autoRefresh with
    | false => simp [schedule_disabled allowed] at late
    | true =>
      cases held : keeper.record with
      | none => simp [schedule_noToken allowed held] at late
      | some record =>
        by_cases regular : 0 < settings.refreshBuffer.secondsWord ∨ 0 ≤ record.secondsLeft now
        · by_cases soon : record.secondsLeft now < settings.refreshBuffer.secondsWord
          · rw [← TokenRecord.remaining_lt_iff regular] at soon
            simp [schedule_immediate allowed held soon] at late
          · rcases schedule_armed allowed held (Int.not_lt.mp soon) with ⟨_, _, _, armed⟩
            simp [armed] at late
        · rw [not_or, Nat.not_lt, Nat.le_zero, Int.not_le] at regular
          have expired := TokenRecord.secondsLeft_neg_iff.mp regular.2
          rw [schedule_passed allowed held regular.1 expired] at late
          exact ⟨(Except.error.inj late).symm, rfl, regular.1, record, rfl, expired⟩
  case mpr =>
    rintro ⟨rfl, allowed, empty, record, held, expired⟩
    rw [schedule_passed allowed held empty expired]

theorem schedule_ok_or_error (settings : Settings) (now : UInt32) (keeper : Keeper) :
    (∃ schedule, (keeper.schedule settings now).1 = .ok schedule) ∨
      (keeper.schedule settings now).1 = .error .subtraction := by
  have schedules := schedule_schedulesTo settings now keeper
  generalize keeper.schedule settings now = answer at schedules ⊢
  cases schedules
  all_goals simp

theorem schedule_ok (settings : Settings) (held : keeper.record = some record)
    (later : now ≤ record.expiry) :
    ∃ schedule, (keeper.schedule settings now).1 = .ok schedule := by
  apply (schedule_ok_or_error settings now keeper).resolve_right
  rw [schedule_eq_error_iff]
  rintro ⟨_, _, _, other, found, expired⟩
  rw [held] at found
  cases found
  exact absurd later (UInt32.not_le.mpr expired)

end Keeper

end DeviceAuth
