import DeviceAuth.Proofs.Device.Token
import DeviceAuth.Proofs.Keeper.Schedule
import DeviceAuth.Storage.Memory

/-! The next refresh of a device. Whatever token is held and whatever the clock shows, the refresh
is launched at once if less than the buffer is left, and otherwise the timer is set for the
moment when just the buffer is left. That moment can only fail to be computed if the buffer is
empty and the token has expired, which a token that was stored just now has not. -/

namespace DeviceAuth

namespace Device

variable {σ : Type}

/-! ## Operations that arrange for a refresh -/

theorem schedule_eq (device : Device σ) :
    device.schedule = ((device.keeper.schedule device.settings device.now).1, { device with
      keeper := (device.keeper.schedule device.settings device.now).2 }) := rfl

theorem thenSchedule_eq_panic {answer : Except Failure Bool × Device σ} {panic : Panic}
    (late : (thenSchedule answer).1 = .error (.panic panic)) :
    answer.1 = .ok true ∧ answer.2.schedule.1 = .error panic ∧
      (thenSchedule answer).2 = answer.2.schedule.2 := by
  rcases answer with ⟨failure | _ | _, device⟩
  · cases late
  · cases late
  · unfold thenSchedule at late ⊢
    dsimp only at late ⊢
    split at late
    next => cases late
    next scheduled =>
      cases late
      rw [scheduled]
      exact ⟨rfl, rfl, rfl⟩

variable [Backend σ]

/-- Beginning to keep the stored token only panics if that token has expired. -/
theorem expired_of_loadToken {device : Device σ} {panic : Panic}
    (late : device.loadToken.1 = .error (.panic panic)) :
    panic = .subtraction ∧ device.settings.refreshBuffer.secondsWord = 0 ∧
      ∃ record, device.loadToken.2.keeper.record = some record ∧ record.expiry < device.now := by
  rcases thenSchedule_eq_panic late with ⟨wanted, failed, scheduled⟩
  have uninitialized : device.keeper.phase = .uninitialized := by
    by_contra initialized
    rw [takeStored_of_initialized initialized] at wanted
    cases wanted
  rcases takeStored_cases uninitialized with ⟨_, _, unread⟩ | ⟨stored, store, taken⟩
  · rw [unread] at wanted
    cases wanted
  · rw [loadToken, scheduled, taken]
    rw [taken] at failed
    rcases Keeper.schedule_eq_error_iff.mp failed with ⟨rfl, _, empty, record, held, expired⟩
    refine ⟨rfl, empty, record, ?_, expired⟩
    exact (Keeper.record_schedule _ _ _).trans held

theorem storeToken_ok {token : String} (given : token.isEmpty = false) (lifetime : UInt32)
    {device : Device σ} (initialized : device.keeper.phase ≠ .uninitialized) :
    ∃ schedule, (device.storeToken token lifetime).1 = .ok schedule := by
  rcases holdToken_ok lifetime given initialized with ⟨record, store, _, expiry, held⟩
  have later : device.now ≤ record.expiry := by
    rw [expiry]
    exact le_expiryAfter device.now lifetime
  let stored := (device.keeper.replace device.settings device.now record).emit
    (.tokenStored record.expiry)
  have holds : stored.record = some record := rfl
  rcases Keeper.schedule_ok device.settings holds later with ⟨schedule, scheduled⟩
  unfold storeToken
  rw [held]
  simp only [schedule_eq, stored] at scheduled ⊢
  rw [scheduled]
  exact ⟨schedule, rfl⟩

theorem storeToken_ne_panic (token : String) (lifetime : UInt32) (device : Device σ)
    (panic : Panic) : (device.storeToken token lifetime).1 ≠ .error (.panic panic) := by
  cases given : token.isEmpty with
  | true => simp [storeToken, holdToken, given]
  | false =>
      by_cases uninitialized : device.keeper.phase = .uninitialized
      · simp [storeToken, holdToken, given, uninitialized, run, Keeper.notInitialized]
      · rcases storeToken_ok given lifetime uninitialized with ⟨_, stored⟩
        simp [stored]

/-! ## The moment of the next refresh -/

/-- Of a token that is held, with automatic refreshes allowed, the next refresh is launched at
once exactly if fewer seconds are left than the buffer, and otherwise the timer is set for
the seconds until just the buffer is left. The exception is an empty buffer and a token that
has expired: nothing can be arranged for then. Storing a token never comes to that, and
loading one only if it is such a token. -/
theorem schedule_of_secondsLeft (device : Device σ) :
    let buffer := device.settings.refreshBuffer.secondsWord
    (device.settings.refreshBuffer.seconds < UInt32.size →
      buffer = device.settings.refreshBuffer.seconds) ∧
    (∀ record, device.keeper.record = some record → device.keeper.autoRefresh = true →
      let left := record.secondsLeft device.now
      (0 < buffer ∨ 0 ≤ left →
        (device.schedule.1 = .ok .immediate ↔ left < buffer) ∧
        (¬ left < buffer → ∃ moment : UInt32, moment.toNat + buffer = record.expiry.toNat ∧
          device.now ≤ moment ∧ device.schedule.1 = .ok (.armed moment) ∧
          device.schedule.2.keeper.HasTimer
            (Span.ofSeconds (moment.toNat - device.now.toNat)))) ∧
      (buffer = 0 ∧ left < 0 → device.schedule.1 = .error .subtraction)) ∧
    (∀ token lifetime panic, (device.storeToken token lifetime).1 ≠ .error (.panic panic)) ∧
    (∀ panic, device.loadToken.1 = .error (.panic panic) → buffer = 0 ∧
      ∃ record, device.loadToken.2.keeper.record = some record ∧
        record.secondsLeft device.now < 0) := by
  intro buffer
  refine ⟨Span.secondsWord_of_lt, ?_, fun token lifetime panic =>
    device.storeToken_ne_panic token lifetime panic, ?_⟩
  · intro record held allowed left
    rw [schedule_eq]
    refine ⟨fun regular => ⟨Keeper.schedule_immediate_iff allowed held regular, ?_⟩, ?_⟩
    · intro enough
      rcases Keeper.schedule_armed allowed held (Int.not_lt.mp enough) with
        ⟨moment, number, ahead, scheduled⟩
      rw [scheduled]
      exact ⟨moment, number, ahead, rfl, Keeper.hasTimer_armTimer _ _⟩
    · rintro ⟨empty, expired⟩
      rw [Keeper.schedule_passed allowed held empty
        (TokenRecord.secondsLeft_neg_iff.mp expired)]
  · intro panic late
    rcases expired_of_loadToken late with ⟨_, empty, record, held, expired⟩
    exact ⟨empty, record, held, TokenRecord.secondsLeft_neg_iff.mpr expired⟩

def withToken (settings : Settings) : Device Memory :=
  ((Device.create settings ⟨[0, 0, 0, 0, 0, 0], rfl⟩ 1000 [] ({} : Memory)).loadToken.2.storeToken
    "abcdefghijklmnop" 3600).2

theorem schedule_of_secondsLeft_withToken :
    let record : TokenRecord := ⟨"abcdefghijklmnop", 4600, "000000000000", ""⟩
    (withToken {}).keeper.record = some record ∧ (withToken {}).keeper.autoRefresh = true ∧
      record.secondsLeft 1000 = 3600 ∧
      (∃ moment : UInt32, moment.toNat + 60 = 4600 ∧
        (withToken {}).schedule.1 = .ok (.armed moment) ∧
        (withToken {}).schedule.2.keeper.HasTimer (Span.ofSeconds (moment.toNat - 1000))) ∧
      record.secondsLeft 5000 = -400 ∧
      ({ withToken {} with now := 5000 } : Device Memory).schedule.1 = .ok .immediate := by
  intro record
  have held : (withToken {}).keeper.record = some record := by decide +kernel
  have allowed : (withToken {}).keeper.autoRefresh = true := by decide +kernel
  have left : record.secondsLeft 1000 = 3600 := by decide
  have expired : record.secondsLeft 5000 = -400 := by decide
  have fresh := ((schedule_of_secondsLeft (withToken {})).2.1 record held allowed).1
    (.inl (by decide))
  have late := ((schedule_of_secondsLeft ({ withToken {} with now := 5000 } : Device Memory)).2.1
    record held allowed).1 (.inl (by decide))
  rcases fresh.2 (by decide +kernel) with ⟨moment, number, _, scheduled, timer⟩
  exact ⟨held, allowed, left, ⟨moment, number, scheduled, timer⟩, expired,
    late.1.mpr (by decide +kernel)⟩

def withoutBuffer : Settings := { refreshBuffer := Span.zero, validityMargin := Span.zero }

/-- With such settings the stored token cannot be kept once it has expired, although less than
nothing is left of it. -/
theorem not_ok_loadToken_expired :
    let restarted := ({ (withToken withoutBuffer).shutdown with now := 5000 } :
      Device Memory).loadToken
    withoutBuffer.check = .ok () ∧ restarted.1 = .error (.panic .subtraction) ∧
      restarted.2.keeper.autoRefresh = true ∧ restarted.2.schedule.1 ≠ .ok .immediate ∧
      ∃ record, restarted.2.keeper.record = some record ∧
        record.secondsLeft restarted.2.now < withoutBuffer.refreshBuffer.secondsWord := by
  intro restarted
  refine ⟨by decide +kernel, by decide +kernel, by decide +kernel, ?_,
    ⟨"abcdefghijklmnop", 4600, "000000000000", ""⟩, by decide +kernel, by decide +kernel⟩
  rw [show restarted.2.schedule.1 = .error .subtraction by decide +kernel]
  nofun

end Device

end DeviceAuth
