import DeviceAuth.Proofs.Keeper.Failures

/-! The count of failures. It is kept twice: a keeper counts the refreshes that failed in a
row, and its backoff counts the delays that it has handed out. Both begin again at the
same time. As long as they go together, a failure is told of with its number and followed
by a delay for that number, and the first failure too many gives the token up. -/

namespace DeviceAuth

namespace AuthEvent

def attempt? : AuthEvent → Option Nat
  | .refreshFailed attempt _ => some attempt
  | _ => none

def isExhaustion : AuthEvent → Bool
  | .refreshExhausted _ => true
  | _ => false

def IsAside (event : AuthEvent) : Prop := event.attempt? = none ∧ event.isExhaustion = false

def reports (limit attempt : Nat) (reason : String) : List AuthEvent :=
  .refreshFailed attempt reason :: if limit < attempt then [.refreshExhausted attempt] else []

theorem reports_of_le {limit attempt : Nat} (reason : String) (few : attempt ≤ limit) :
    reports limit attempt reason = [.refreshFailed attempt reason] := by
  rw [reports, if_neg (Nat.not_lt.mpr few)]

theorem reports_of_lt {limit attempt : Nat} (reason : String) (many : limit < attempt) :
    reports limit attempt reason =
      [.refreshFailed attempt reason, .refreshExhausted attempt] := by
  rw [reports, if_pos many]

/-- Giving up is told of just after the first failure too many, and nowhere else. -/
structure GivesUpAfter (limit : Nat) (events : List AuthEvent) : Prop where
  follows : ∀ before reason after, events = before ++ .refreshFailed (limit + 1) reason :: after →
    ∃ later, after = .refreshExhausted (limit + 1) :: later
  follows_only : ∀ before attempts after, events = before ++ .refreshExhausted attempts :: after →
    attempts = limit + 1 ∧
      ∃ earlier reason, before = earlier ++ [.refreshFailed (limit + 1) reason]

namespace GivesUpAfter

variable {limit : Nat} {first second : List AuthEvent}

theorem append (left : GivesUpAfter limit first) (right : GivesUpAfter limit second) :
    GivesUpAfter limit (first ++ second) where
  follows before reason after equal := by
    rcases List.append_eq_append_iff.mp equal with ⟨_, rfl, found⟩ | ⟨middle, found, rest⟩
    · exact right.follows _ _ _ found
    · cases middle with
      | nil => exact right.follows [] _ _ rest.symm
      | cons event middle =>
          obtain ⟨rfl, rfl⟩ := List.cons.inj rest
          obtain ⟨later, rfl⟩ := left.follows _ _ _ found
          exact ⟨later ++ second, rfl⟩
  follows_only before attempts after equal := by
    rcases List.append_eq_append_iff.mp equal with ⟨_, rfl, found⟩ | ⟨middle, found, rest⟩
    · obtain ⟨same, earlier, reason, rfl⟩ := right.follows_only _ _ _ found
      exact ⟨same, first ++ earlier, reason, by simp⟩
    · cases middle with
      | nil =>
          obtain ⟨_, earlier, reason, none⟩ := right.follows_only [] _ _ rest.symm
          exact absurd none (by simp)
      | cons event middle =>
          obtain ⟨rfl, rfl⟩ := List.cons.inj rest
          exact left.follows_only _ _ _ found

theorem of_asides {events : List AuthEvent} (asides : ∀ event ∈ events, event.IsAside) :
    GivesUpAfter limit events where
  follows before reason after equal := by
    have aside : (AuthEvent.refreshFailed (limit + 1) reason).IsAside := by
      apply asides
      simp [equal]
    cases aside.1
  follows_only before attempts after equal := by
    have aside : (AuthEvent.refreshExhausted attempts).IsAside := by
      apply asides
      simp [equal]
    cases aside.2

theorem of_failure {attempt : Nat} (reason : String) (few : attempt ≤ limit) :
    GivesUpAfter limit [.refreshFailed attempt reason] where
  follows before other after equal := by
    cases before with
    | nil =>
        cases equal
        omega
    | cons => simp at equal
  follows_only before attempts after equal := by
    cases before with
    | nil => cases equal
    | cons => simp at equal

theorem of_exhaustion (reason : String) :
    GivesUpAfter limit
      [.refreshFailed (limit + 1) reason, .refreshExhausted (limit + 1)] where
  follows before other after equal := by
    rcases before with _ | ⟨_, _ | ⟨_, _⟩⟩
    · cases equal
      exact ⟨[], rfl⟩
    · cases equal
    · simp at equal
  follows_only before attempts after equal := by
    rcases before with _ | ⟨_, _ | ⟨_, _⟩⟩
    · cases equal
    · cases equal
      exact ⟨rfl, [], reason, rfl⟩
    · simp at equal

theorem of_reports {attempt : Nat} (reason : String) (bounded : attempt ≤ limit + 1) :
    GivesUpAfter limit (reports limit attempt reason) := by
  by_cases many : limit < attempt
  · obtain rfl : attempt = limit + 1 := by omega
    rw [reports_of_lt reason many]
    exact of_exhaustion reason
  · rw [reports_of_le reason (Nat.not_lt.mp many)]
    exact of_failure reason (Nat.not_lt.mp many)

end GivesUpAfter

end AuthEvent

def Backoff.retryDelay (settings : Settings) (failures : Nat) (random : Octets) :
    Except Panic Span :=
  let backoff := Backoff.ofSettings settings
  spread (backoff.nominal (failures - 1)) backoff.jitter (Octets.drawWord random).1

namespace Keeper

open AuthEvent (reports)

variable {keeper after : Keeper} {settings : Settings}

def attempts (keeper : Keeper) : List Nat := keeper.events.filterMap AuthEvent.attempt?

def exhaustions (keeper : Keeper) : Nat := keeper.events.countP AuthEvent.isExhaustion

def HasTimer (delay : Span) (keeper : Keeper) : Prop :=
  ∃ id, keeper.timer = some id ∧ ⟨id, .launchAfter delay⟩ ∈ keeper.tasks

theorem hasTimer_armTimer (delay : Span) (keeper : Keeper) :
    (keeper.armTimer delay).HasTimer delay := by
  refine ⟨keeper.nextTask, rfl, ?_⟩
  rw [mem_tasks_armTimer]
  exact .inr rfl

/-! ## What becomes of the count -/

def Discreet (keeper after : Keeper) : Prop :=
  ∃ told, after.events = keeper.events ++ told ∧ ∀ event ∈ told, event.IsAside

theorem Discreet.of_same (events : after.events = keeper.events) : keeper.Discreet after :=
  ⟨[], by rw [events, List.append_nil], nofun⟩

theorem Discreet.emit {event : AuthEvent} (aside : event.IsAside)
    (events : after.events = keeper.events) : keeper.Discreet (after.emit event) := by
  refine ⟨[event], congrArg (· ++ [event]) events, ?_⟩
  intro other member
  obtain rfl := List.mem_singleton.mp member
  exact aside

theorem Discreet.attempts_eq (discreet : keeper.Discreet after) :
    after.attempts = keeper.attempts := by
  rcases discreet with ⟨told, equal, asides⟩
  have none : told.filterMap AuthEvent.attempt? = [] :=
    List.filterMap_eq_nil_iff.mpr fun event member => (asides event member).1
  rw [attempts, equal, List.filterMap_append, none, List.append_nil]
  rfl

theorem Discreet.exhaustions_eq (discreet : keeper.Discreet after) :
    after.exhaustions = keeper.exhaustions := by
  rcases discreet with ⟨told, equal, asides⟩
  have none : told.countP AuthEvent.isExhaustion = 0 := by
    rw [List.countP_eq_zero]
    intro event member
    simp [(asides event member).2]
  rw [exhaustions, equal, List.countP_append, none]
  rfl

theorem Discreet.isAside {told : List AuthEvent} (discreet : keeper.Discreet after)
    (equal : after.events = keeper.events ++ told) : ∀ event ∈ told, event.IsAside := by
  rcases discreet with ⟨asides, same, quiet⟩
  obtain rfl : told = asides := List.append_cancel_left (equal.symm.trans same)
  exact quiet

theorem Discreet.givesUpAfter {limit : Nat} (discreet : keeper.Discreet after)
    (told : AuthEvent.GivesUpAfter limit keeper.events) :
    AuthEvent.GivesUpAfter limit after.events := by
  rcases discreet with ⟨asides, equal, quiet⟩
  rw [equal]
  exact told.append (.of_asides quiet)

structure CountKept (keeper after : Keeper) : Prop where
  retries : after.retries = keeper.retries
  backoff : after.backoff = keeper.backoff
  record : after.record = keeper.record ∨ after.record = none
  discreet : keeper.Discreet after

structure CountReset (keeper after : Keeper) : Prop where
  retries : after.retries = 0
  backoff : after.backoff = keeper.backoff.reset
  discreet : keeper.Discreet after

/-- A failure is counted and told of. It is followed by another attempt, whose delay is
the next of the backoff, or the token is given up. -/
structure CountRaised (settings : Settings) (random : Octets) (reason : String)
    (keeper after : Keeper) : Prop where
  retries : after.retries.toNat = keeper.retries.toNat + 1
  told : after.events =
    keeper.events ++ reports settings.refreshRetries (keeper.retries.toNat + 1) reason
  again : keeper.retries.toNat + 1 ≤ settings.refreshRetries →
    after.record = keeper.record ∧ after.backoff = (keeper.backoff.next random).2.1 ∧
      ∀ delay, (keeper.backoff.next random).1 = .ok delay → after.HasTimer delay
  givenUp : settings.refreshRetries < keeper.retries.toNat + 1 →
    after.record = none ∧ after.backoff = keeper.backoff ∧ after.timer = none

def account (keeper : Keeper) : UInt32 × Backoff × Option TokenRecord × List AuthEvent :=
  (keeper.retries, keeper.backoff, keeper.record, keeper.events)

theorem CountKept.of_account (same : after.account = keeper.account) :
    keeper.CountKept after := by
  simp only [account, Prod.mk.injEq] at same
  obtain ⟨retries, backoff, record, events⟩ := same
  exact ⟨retries, backoff, .inl record, .of_same events⟩

theorem CountKept.same (keeper : Keeper) : keeper.CountKept keeper := .of_account rfl

theorem countKept_schedule (settings : Settings) (now : UInt32) (keeper : Keeper) :
    keeper.CountKept (keeper.schedule settings now).2 := by
  obtain ⟨_, _, _, equal⟩ := schedule_keeps settings now keeper
  rw [equal]
  exact .of_account rfl

theorem countKept_abandonRefresh (settings : Settings) (now : UInt32) (generation : UInt64)
    (keeper : Keeper) : keeper.CountKept (keeper.abandonRefresh settings now generation) := by
  unfold abandonRefresh settleAbandoned
  split
  · exact .of_account rfl
  · exact .of_account rfl

theorem countReset_beginWith (settings : Settings) (now : UInt32) (stored : Option TokenRecord)
    (keeper : Keeper) : keeper.CountReset (keeper.beginWith settings now stored) := by
  cases stored with
  | none => exact ⟨rfl, rfl, .of_same rfl⟩
  | some record => exact ⟨rfl, rfl, .of_same rfl⟩

theorem countRaised_retryLater (now : UInt32) {attempt : UInt32} (reason : String)
    (random : Octets) (number : keeper.retries.toNat + 1 = attempt.toNat)
    (few : attempt.toNat ≤ settings.refreshRetries) :
    keeper.CountRaised settings random reason
      ((keeper.countFailure attempt reason).retryLater settings now random).2.1 := by
  have told : (keeper.countFailure attempt reason).events =
      keeper.events ++ reports settings.refreshRetries (keeper.retries.toNat + 1) reason := by
    rw [number, AuthEvent.reports_of_le reason few]
    rfl
  have again : ∀ delay backoff rest, keeper.backoff.next random = (delay, backoff, rest) →
      ∀ after : Keeper, after.retries = attempt →
        after.events = (keeper.countFailure attempt reason).events →
        after.record = keeper.record → after.backoff = backoff →
        (∀ span, delay = .ok span → after.HasTimer span) →
        keeper.CountRaised settings random reason after := by
    intro delay backoff rest drawn after retries events record kept timed
    constructor
    case retries => rw [retries, number]
    case told => exact events.trans told
    case again =>
      rw [drawn]
      exact fun _ => ⟨record, kept, timed⟩
    case givenUp => exact fun many => absurd (number ▸ many) (Nat.not_lt.mpr few)
  rw [retryLater]
  split
  next delay backoff rest drawn =>
    refine again _ backoff rest drawn _ rfl rfl rfl rfl ?_
    intro span same
    obtain rfl := Except.ok.inj same
    exact hasTimer_armTimer delay _
  next panic backoff rest drawn => exact again _ backoff rest drawn _ rfl rfl rfl rfl nofun

theorem countRaised_failRefresh (now : UInt32) {generation : UInt64} (reason : String)
    (random : Octets) (awaited : keeper.IsAwaited generation) (countable : ¬ keeper.IsFull) :
    keeper.CountRaised settings random reason
      (keeper.failRefresh settings now generation reason random).2.1 := by
  rw [failRefresh, if_pos awaited]
  split
  next uncounted => exact absurd (Word.add_eq_error_iff.mp uncounted).2 countable
  next attempt counted =>
    have number : keeper.retries.toNat + 1 = attempt.toNat := Word.add_eq_ok_iff.mp counted
    dsimp only
    split
    next many =>
      constructor
      case retries => exact number.symm
      case told =>
        rw [number, AuthEvent.reports_of_lt reason many]
        exact List.append_assoc _ _ _
      case again => exact fun few => absurd (number ▸ few) (Nat.not_le.mpr many)
      case givenUp => exact fun _ => ⟨rfl, rfl, rfl⟩
    next few => exact countRaised_retryLater now reason random number (Nat.not_lt.mp few)

theorem count_failRefresh (settings : Settings) (now : UInt32) (generation : UInt64)
    (reason : String) (random : Octets) (keeper : Keeper) :
    keeper.CountKept (keeper.failRefresh settings now generation reason random).2.1 ∨
      keeper.phase = .refreshInProgress ∧ keeper.CountRaised settings random reason
        (keeper.failRefresh settings now generation reason random).2.1 := by
  by_cases awaited : keeper.IsAwaited generation
  case neg =>
    rw [failRefresh_of_not settings now reason random awaited]
    exact .inl (.same keeper)
  case pos =>
    by_cases full : keeper.IsFull
    · rw [failRefresh_of_isFull now reason random awaited full]
      exact .inl (.of_account rfl)
    · exact .inr ⟨awaited.2, countRaised_failRefresh now reason random awaited full⟩

/-! ## Both counts together -/

/-- The backoff has handed out a delay for each failure but the last one too many, and
that one has given the token up. -/
structure Counted (settings : Settings) (keeper : Keeper) : Prop where
  delays : keeper.backoff = { Backoff.ofSettings settings with
    attempts := min keeper.retries.toNat settings.refreshRetries }
  bounded : keeper.retries.toNat ≤ settings.refreshRetries + 1
  givenUp : keeper.retries.toNat = settings.refreshRetries + 1 → keeper.record = none

namespace Counted

theorem create (settings : Settings) : (Keeper.create settings).Counted settings where
  delays := by
    show Backoff.ofSettings settings =
      { Backoff.ofSettings settings with attempts := min 0 settings.refreshRetries }
    rw [Nat.zero_min]
    rfl
  bounded := Nat.zero_le _
  givenUp none := absurd none (Nat.succ_ne_zero _).symm

theorem kept (counted : keeper.Counted settings) (kept : keeper.CountKept after) :
    after.Counted settings where
  delays := by
    rw [kept.backoff, kept.retries]
    exact counted.delays
  bounded := by
    rw [kept.retries]
    exact counted.bounded
  givenUp last := by
    rw [kept.retries] at last
    rcases kept.record with same | none
    · exact same.trans (counted.givenUp last)
    · exact none

theorem reset (counted : keeper.Counted settings) (fresh : keeper.CountReset after) :
    after.Counted settings where
  delays := by
    rw [fresh.backoff, counted.delays, fresh.retries, UInt32.toNat_zero, Nat.zero_min]
    rfl
  bounded := by
    rw [fresh.retries]
    exact Nat.zero_le _
  givenUp last := by
    rw [fresh.retries] at last
    cases last

theorem retries_le (counted : keeper.Counted settings) (held : keeper.record ≠ none) :
    keeper.retries.toNat ≤ settings.refreshRetries := by
  by_contra many
  have last : keeper.retries.toNat = settings.refreshRetries + 1 := by
    have bound := counted.bounded
    omega
  exact held (counted.givenUp last)

theorem raised {random : Octets} {reason : String} (counted : keeper.Counted settings)
    (limited : settings.refreshRetries < Backoff.greatestAttempts)
    (held : keeper.record ≠ none)
    (raised : keeper.CountRaised settings random reason after) : after.Counted settings := by
  have bound := counted.retries_le held
  have delays := counted.delays
  by_cases few : keeper.retries.toNat + 1 ≤ settings.refreshRetries
  case pos =>
    have again := (raised.again few).2.1
    constructor
    case delays =>
      have number : min (min keeper.retries.toNat settings.refreshRetries + 1)
          Backoff.greatestAttempts = min (keeper.retries.toNat + 1) settings.refreshRetries := by
        omega
      rw [again, delays, raised.retries, ← number]
      rfl
    case bounded =>
      rw [raised.retries]
      omega
    case givenUp =>
      intro last
      rw [raised.retries] at last
      omega
  case neg =>
    obtain ⟨none, backoff, _⟩ := raised.givenUp (Nat.not_le.mp few)
    constructor
    case delays =>
      have number : min keeper.retries.toNat settings.refreshRetries =
          min (keeper.retries.toNat + 1) settings.refreshRetries := by
        omega
      rw [backoff, delays, raised.retries, number]
    case bounded =>
      rw [raised.retries]
      omega
    case givenUp => exact fun _ => none

theorem next_eq (counted : keeper.Counted settings)
    (few : keeper.retries.toNat ≤ settings.refreshRetries) (random : Octets) :
    (keeper.backoff.next random).1 =
      Backoff.retryDelay settings (keeper.retries.toNat + 1) random := by
  rw [counted.delays, Nat.min_eq_left few]
  rfl

end Counted

/-! ## What is told -/

theorem attempts_of_told {told : List AuthEvent} (equal : after.events = keeper.events ++ told) :
    after.attempts = keeper.attempts ++ told.filterMap AuthEvent.attempt? := by
  rw [attempts, equal, List.filterMap_append]
  rfl

theorem exhaustions_of_told {told : List AuthEvent}
    (equal : after.events = keeper.events ++ told) :
    after.exhaustions = keeper.exhaustions + told.countP AuthEvent.isExhaustion := by
  rw [exhaustions, equal, List.countP_append]
  rfl

theorem CountRaised.attempts_eq {random : Octets} {reason : String}
    (raised : keeper.CountRaised settings random reason after) :
    after.attempts = keeper.attempts ++ [keeper.retries.toNat + 1] := by
  rw [attempts_of_told raised.told]
  by_cases many : settings.refreshRetries < keeper.retries.toNat + 1
  · rw [AuthEvent.reports_of_lt reason many]
    rfl
  · rw [AuthEvent.reports_of_le reason (Nat.not_lt.mp many)]
    rfl

theorem CountRaised.exhaustions_eq {random : Octets} {reason : String}
    (raised : keeper.CountRaised settings random reason after) :
    after.exhaustions = keeper.exhaustions +
      if settings.refreshRetries < keeper.retries.toNat + 1 then 1 else 0 := by
  rw [exhaustions_of_told raised.told]
  by_cases many : settings.refreshRetries < keeper.retries.toNat + 1
  · rw [AuthEvent.reports_of_lt reason many, if_pos many]
    rfl
  · rw [AuthEvent.reports_of_le reason (Nat.not_lt.mp many), if_neg many]
    rfl

end Keeper

end DeviceAuth
