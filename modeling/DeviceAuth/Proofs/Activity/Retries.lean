import DeviceAuth.Proofs.Activity.Accord
import DeviceAuth.Proofs.Activity.Generations
import DeviceAuth.Proofs.Keeper.Retries

/-! Refreshes that fail again and again. Failures are numbered from one as long as nothing
resets their count, each but the last one too many is followed by another attempt, and
after that one no refresh is sent until there is a token again. -/

namespace DeviceAuth

namespace Activity

variable {σ : Type} [Backend σ] {activity : Activity σ}

/-! ## Moves that reset the count -/

inductive Resets (activity : Activity σ) : Move σ → Prop where
  | begun {stored : Option TokenRecord} {store : σ}
      (uninitialized : activity.keeper.phase = .uninitialized)
      (read : Credentials.loadRecord.perform activity.device.store = (.ok stored, store)) :
      Resets activity .load
  | replaced {token : String} {lifetime : UInt32} (given : token.isEmpty = false)
      (initialized : activity.keeper.phase ≠ .uninitialized) :
      Resets activity (.hold token lifetime)
  | renewed {message : String} {lifetime : UInt32} {token : Option String}
      (read : Refresh.Answer.read message = .ok (.accepted lifetime token))
      (initialized : activity.keeper.phase ≠ .uninitialized)
      (held : activity.keeper.record ≠ none) : Resets activity (.answer message)
  | confirmed : Resets activity .confirm

inductive Obtains (activity : Activity σ) : Move σ → Prop where
  | loaded {record : TokenRecord} {store : σ}
      (uninitialized : activity.keeper.phase = .uninitialized)
      (read : Credentials.loadRecord.perform activity.device.store = (.ok (some record), store)) :
      Obtains activity .load
  | stored {token : String} {lifetime : UInt32} (given : token.isEmpty = false)
      (initialized : activity.keeper.phase ≠ .uninitialized) :
      Obtains activity (.hold token lifetime)

def Without (Kind : Activity σ → Move σ → Prop) : List (Move σ) → Activity σ → Prop
  | [], _ => True
  | move :: rest, activity => ¬ Kind activity move ∧ Without Kind rest (activity.step move)

/-! ## What a move does to the count -/

/-- A move leaves the count alone, resets it, or lets the refresh fail that is waited
for. A failure that cannot be counted leaves it alone as well. -/
inductive Tallies (activity : Activity σ) (move : Move σ) (after : Keeper) : Prop where
  | kept (kept : activity.keeper.CountKept after)
  | reset (resets : activity.Resets move) (fresh : activity.keeper.CountReset after)
  | raised {reason : String} (refreshing : activity.keeper.phase = .refreshInProgress)
      (raised : activity.keeper.CountRaised activity.device.settings activity.device.random
        reason after)

theorem countReset_step {move : Move σ} (resets : activity.Resets move) :
    activity.keeper.CountReset (activity.step move).keeper := by
  cases resets with
  | begun uninitialized read =>
      simp only [step, keeper_goOn]
      rw [Device.takeStored_of_read uninitialized read]
      exact Keeper.countReset_beginWith _ _ _ _
  | replaced given initialized =>
      simp only [step, keeper_goOn]
      obtain ⟨_, _, _, _, held⟩ := Device.holdToken_ok _ given initialized
      rw [held]
      exact ⟨rfl, rfl, .emit ⟨rfl, rfl⟩ rfl⟩
  | renewed read initialized held =>
      simp only [step, keeper_goOn]
      rcases Device.applyAnswer_accepted read initialized with
        ⟨missing, _⟩ | ⟨_, _, _, _, applied⟩
      · exact absurd missing held
      · rw [applied]
        exact ⟨rfl, rfl, .emit ⟨rfl, rfl⟩ rfl⟩
  | confirmed => exact ⟨rfl, rfl, .emit ⟨rfl, rfl⟩ rfl⟩

theorem countKept_load (unreset : ¬ activity.Resets .load) :
    activity.keeper.CountKept activity.device.takeStored.2.keeper := by
  by_cases uninitialized : activity.device.keeper.phase = .uninitialized
  case neg =>
    rw [Device.takeStored_of_initialized uninitialized]
    exact .same _
  case pos =>
    cases performed : Credentials.loadRecord.perform activity.device.store with
    | mk result store =>
        cases result with
        | error failure =>
            rw [Device.takeStored_of_unread uninitialized performed]
            exact .same _
        | ok stored => exact absurd (.begun uninitialized performed) unreset

theorem countKept_hold {token : String} {lifetime : UInt32}
    (unreset : ¬ activity.Resets (.hold token lifetime)) :
    activity.keeper.CountKept (activity.device.holdToken token lifetime).2.keeper := by
  have refused : token.isEmpty = true ∨ activity.device.keeper.phase = .uninitialized := by
    by_contra accepted
    rw [not_or, Bool.not_eq_true] at accepted
    exact unreset (.replaced accepted.1 accepted.2)
  obtain ⟨failure, store, held⟩ := Device.holdToken_error lifetime refused
  rw [held]
  exact .same _

theorem countKept_answer {message : String} (unreset : ¬ activity.Resets (.answer message)) :
    activity.keeper.CountKept (activity.device.applyAnswer message).2.keeper := by
  rcases activity.device.applyAnswer_error_or_read message with
    ⟨failure, same⟩ | ⟨initialized, answer, read⟩
  · rw [same]
    exact .same _
  · cases answer with
    | accepted lifetime token =>
        rcases Device.applyAnswer_accepted read initialized with
          ⟨_, _, applied⟩ | ⟨_, _, _, held, _⟩
        · rw [applied]
          exact .of_account rfl
        · have present : activity.keeper.record ≠ none := by
            intro missing
            rw [show activity.device.keeper.record = none from missing] at held
            cases held
          exact absurd (.renewed read initialized present) unreset
    | rejected reason =>
        rw [Device.applyAnswer_cleared read initialized]
        exact ⟨rfl, rfl, .inr rfl, .emit ⟨rfl, rfl⟩ rfl⟩

theorem tallies_report (move : Move σ) (generation : UInt64) (reason : String) :
    activity.Tallies move (activity.device.failRefresh generation reason).2.keeper := by
  rcases Keeper.count_failRefresh activity.device.settings activity.device.now generation reason
    activity.device.random activity.keeper with kept | ⟨refreshing, raised⟩
  · exact .kept kept
  · exact .raised refreshing raised

theorem tallies_lapse (move : Move σ) (task : Nat) (generation : UInt64) (reason : String) :
    activity.Tallies move
      ((activity.device.onKeeper (Keeper.endTask task)).failRefresh generation
        reason).2.keeper := by
  rcases Keeper.count_failRefresh activity.device.settings activity.device.now generation reason
    activity.device.random (activity.keeper.endTask task) with kept | ⟨refreshing, raised⟩
  · exact .kept ⟨kept.retries, kept.backoff, kept.record, kept.discreet⟩
  · exact .raised refreshing ⟨raised.retries, raised.told, raised.again, raised.givenUp⟩

omit [Backend σ] in
theorem countKept_takeFlag : activity.keeper.CountKept activity.takeFlag.keeper := by
  rcases activity.takeFlag_cases with ⟨_, same⟩ | ⟨taken, free, began⟩
  · rw [same]
    exact .same _
  · obtain ⟨_, rfl⟩ := Keeper.takeFlag?_some free
    rw [began]
    exact .of_account rfl

omit [Backend σ] in
theorem countKept_enter (call : Nat) :
    activity.keeper.CountKept (activity.enter call).keeper := by
  rcases activity.enter_cases call with ⟨refused, _⟩ | ⟨_, _, keeper, request, entered⟩
  · rw [refused]
    exact .same _
  · obtain ⟨_, _, _, _, _, rfl⟩ := Keeper.enterRefresh_ok request
    rw [entered]
    exact .of_account rfl

theorem tallies_of_not_resets {move : Move σ} (unreset : ¬ activity.Resets move) :
    activity.Tallies move (activity.step move).keeper := by
  cases move with
  | load =>
      simp only [step, keeper_goOn]
      exact .kept (countKept_load unreset)
  | hold token lifetime =>
      simp only [step, keeper_goOn]
      exact .kept (countKept_hold unreset)
  | schedule => exact .kept (Keeper.countKept_schedule _ _ _)
  | answer message =>
      simp only [step, keeper_goOn]
      exact .kept (countKept_answer unreset)
  | clear => exact .kept ⟨rfl, rfl, .inr rfl, .emit ⟨rfl, rfl⟩ rfl⟩
  | shutdown => exact .kept ⟨rfl, rfl, .inr rfl, .of_same rfl⟩
  | confirm => exact absurd .confirmed unreset
  | deny message => exact .kept ⟨rfl, rfl, .inl rfl, .emit ⟨rfl, rfl⟩ rfl⟩
  | refresh => exact .kept countKept_takeFlag
  | begin task =>
      simp only [step]
      split
      next =>
        have taken := (activity.onKeeper (Keeper.endTask task)).countKept_takeFlag
        exact .kept ⟨taken.retries, taken.backoff, taken.record, taken.discreet⟩
      next => exact .kept (.same _)
  | wake task =>
      simp only [step, onDevice, Device.wakeTask]
      split
      next => exact .kept (.of_account rfl)
      next generation _ _ => exact tallies_lapse _ task generation Device.noAnswer
      next => exact .kept (.same _)
  | expire task =>
      simp only [step]
      split
      next => exact .kept (.of_account rfl)
      next => exact .kept (.same _)
  | enter call =>
      simp only [step]
      split
      next => exact .kept (countKept_enter call)
      next => exact .kept (.same _)
  | release call =>
      simp only [step]
      split
      next => exact .kept (.of_account rfl)
      next => exact .kept (.same _)
  | sent call result =>
      simp only [step]
      split
      all_goals exact .kept (.same _)
  | report call =>
      simp only [step]
      split
      next generation reason _ => exact tallies_report _ generation reason
      next => exact .kept (.same _)
  | drop call lockFree =>
      simp only [step]
      split
      next => exact .kept (.of_account rfl)
      next generation _ =>
        split
        next => exact .kept (Keeper.countKept_abandonRefresh _ _ generation _)
        next => exact .kept (.of_account rfl)
      next => exact .kept (.same _)
      next => exact .kept (.same _)
  | arrange call =>
      simp only [step]
      split
      next => exact .kept (Keeper.countKept_schedule _ _ _)
      next => exact .kept (.same _)
  | _ => exact .kept (.of_account rfl)

theorem step_tallies (move : Move σ) (activity : Activity σ) :
    activity.Tallies move (activity.step move).keeper := by
  by_cases resets : activity.Resets move
  · exact .reset resets (countReset_step resets)
  · exact tallies_of_not_resets resets

/-! ## What every run keeps -/

structure Counting (settings : Settings) (activity : Activity σ) : Prop where
  settings_eq : activity.device.settings = settings
  accord : Accord activity.keeper.phase activity.keeper.record
  counted : activity.keeper.Counted settings
  told : AuthEvent.GivesUpAfter settings.refreshRetries activity.keeper.events

variable {settings : Settings}

omit [Backend σ] in
theorem Counting.held (counting : activity.Counting settings)
    (refreshing : activity.keeper.phase = .refreshInProgress) : activity.keeper.record ≠ none :=
  counting.accord.held (.inr refreshing)

omit [Backend σ] in
theorem Counting.retries_le (counting : activity.Counting settings)
    (refreshing : activity.keeper.phase = .refreshInProgress) :
    activity.keeper.retries.toNat ≤ settings.refreshRetries :=
  counting.counted.retries_le (counting.held refreshing)

omit [Backend σ] in
theorem counting_start (settings : Settings) (address : Address) (now : UInt32)
    (random : Octets) (store : σ) :
    (start settings address now random store).Counting settings where
  settings_eq := rfl
  accord := .of_none nofun nofun
  counted := .create settings
  told := .of_asides nofun

theorem Counting.step (counting : activity.Counting settings)
    (limited : settings.refreshRetries < Backoff.greatestAttempts) (move : Move σ) :
    (activity.step move).Counting settings where
  settings_eq := (activity.step_effect move).1.trans counting.settings_eq
  accord := accord_step move counting.accord
  counted := by
    cases activity.step_tallies move with
    | kept kept => exact counting.counted.kept kept
    | reset _ fresh => exact counting.counted.reset fresh
    | raised refreshing raised =>
        rw [counting.settings_eq] at raised
        exact counting.counted.raised limited (counting.held refreshing) raised
  told := by
    cases activity.step_tallies move with
    | kept kept => exact kept.discreet.givesUpAfter counting.told
    | reset _ fresh => exact fresh.discreet.givesUpAfter counting.told
    | raised refreshing raised =>
        have bound := counting.retries_le refreshing
        rw [counting.settings_eq] at raised
        rw [raised.told]
        exact counting.told.append (.of_reports _ (Nat.succ_le_succ bound))

theorem Counting.run (counting : activity.Counting settings)
    (limited : settings.refreshRetries < Backoff.greatestAttempts) (moves : List (Move σ)) :
    (activity.run moves).Counting settings := by
  apply run_preserves fun activity => activity.Counting settings
  · intro move _ activity counting
    exact counting.step limited move
  · exact counting

/-! ## Failures -/

def Fails (activity : Activity σ) (move : Move σ) (attempt : Nat) : Prop :=
  ∃ reason told, (activity.step move).keeper.events =
    activity.keeper.events ++ .refreshFailed attempt reason :: told

def GivesUp (activity : Activity σ) (move : Move σ) : Prop :=
  ∃ told attempts, (activity.step move).keeper.events = activity.keeper.events ++ told ∧
    .refreshExhausted attempts ∈ told

theorem raised_of_told {move : Move σ} {told : List AuthEvent} {event : AuthEvent}
    (equal : (activity.step move).keeper.events = activity.keeper.events ++ told)
    (member : event ∈ told) (loud : ¬ event.IsAside) :
    activity.keeper.phase = .refreshInProgress ∧ ∃ reason,
      told = AuthEvent.reports activity.device.settings.refreshRetries
        (activity.keeper.retries.toNat + 1) reason ∧
      activity.keeper.CountRaised activity.device.settings activity.device.random reason
        (activity.step move).keeper := by
  have notDiscreet : ¬ activity.keeper.Discreet (activity.step move).keeper :=
    fun discreet => loud (discreet.isAside equal event member)
  cases activity.step_tallies move with
  | kept kept => exact absurd kept.discreet notDiscreet
  | reset _ fresh => exact absurd fresh.discreet notDiscreet
  | raised refreshing raised =>
      exact ⟨refreshing, _, List.append_cancel_left (equal.symm.trans raised.told), raised⟩

theorem Fails.hasTimer {move : Move σ} {attempt : Nat} (fails : activity.Fails move attempt)
    (counting : activity.Counting settings) :
    attempt = activity.keeper.retries.toNat + 1 ∧ (attempt ≤ settings.refreshRetries →
      ∀ delay, Backoff.retryDelay settings attempt activity.device.random = .ok delay →
        (activity.step move).keeper.HasTimer delay ∧
          (activity.step move).keeper.record ≠ none) := by
  rcases fails with ⟨reason, told, equal⟩
  rcases raised_of_told equal (.head _) (fun aside => by cases aside.1) with
    ⟨refreshing, other, same, raised⟩
  rw [counting.settings_eq] at raised
  have number : attempt = activity.keeper.retries.toNat + 1 := by
    cases (List.cons.inj same).1
    rfl
  refine ⟨number, fun few delay drawn => ?_⟩
  rw [number] at few drawn
  rcases raised.again few with ⟨record, _, timed⟩
  rw [record]
  refine ⟨timed delay ?_, counting.held refreshing⟩
  rw [counting.counted.next_eq (counting.retries_le refreshing)]
  exact drawn

theorem GivesUp.missing {move : Move σ} (givesUp : activity.GivesUp move) :
    (activity.step move).keeper.record = none := by
  rcases givesUp with ⟨told, attempts, equal, member⟩
  rcases raised_of_told equal member (fun aside => by cases aside.2) with
    ⟨_, reason, rfl, raised⟩
  by_cases many : activity.device.settings.refreshRetries < activity.keeper.retries.toNat + 1
  · exact (raised.givenUp many).1
  · rw [AuthEvent.reports_of_le _ (Nat.not_lt.mp many)] at member
    simp at member

theorem record_step_of_not_obtains {move : Move σ} (missing : activity.keeper.record = none)
    (unobtained : ¬ activity.Obtains move) : (activity.step move).keeper.record = none := by
  have goes := activity.step_goes move
  have before : activity.standing.record = none := missing
  show (activity.step move).standing.record = none
  unfold Goes at goes
  generalize same : (activity.step move).device.standing = after at goes
  rw [show (activity.step move).standing = after from same]
  cases goes with
  | beginWith uninitialized read => exact absurd (.loaded uninitialized read) unobtained
  | hold given initialized => exact absurd (.stored given initialized) unobtained
  | renew _ _ held =>
      rw [before] at held
      cases held
  | giveUp => rfl
  | reject => rfl
  | clear => rfl
  | shutdown => rfl
  | _ => exact before

theorem record_run_of_without_obtains {moves : List (Move σ)}
    (missing : activity.keeper.record = none) (without : activity.Without Obtains moves) :
    (activity.run moves).keeper.record = none := by
  induction moves generalizing activity with
  | nil => exact missing
  | cons move rest induction =>
      exact induction (record_step_of_not_obtains missing without.1) without.2

/-! ## Between two resets -/

/-- How often giving up was told of since the count began. -/
def timesGivenUp (limit retries : Nat) : Nat := if limit < retries then 1 else 0

theorem attempts_run {moves : List (Move σ)} (counting : activity.Counting settings)
    (limited : settings.refreshRetries < Backoff.greatestAttempts)
    (without : activity.Without Resets moves) :
    ∃ failures,
      (activity.run moves).keeper.retries.toNat = activity.keeper.retries.toNat + failures ∧
      (activity.run moves).keeper.attempts =
        activity.keeper.attempts ++ List.range' (activity.keeper.retries.toNat + 1) failures ∧
      (activity.run moves).keeper.exhaustions +
          timesGivenUp settings.refreshRetries activity.keeper.retries.toNat =
        activity.keeper.exhaustions +
          timesGivenUp settings.refreshRetries (activity.run moves).keeper.retries.toNat := by
  induction moves generalizing activity with
  | nil => exact ⟨0, rfl, (List.append_nil _).symm, rfl⟩
  | cons move rest induction =>
      obtain ⟨failures, retries, attempts, exhaustions⟩ :=
        induction (counting.step limited move) without.2
      rw [Activity.run]
      cases activity.step_tallies move with
      | kept kept =>
          rw [kept.retries] at retries attempts exhaustions
          rw [kept.discreet.attempts_eq] at attempts
          rw [kept.discreet.exhaustions_eq] at exhaustions
          exact ⟨failures, retries, attempts, exhaustions⟩
      | reset resets => exact absurd resets without.1
      | raised refreshing raised =>
          have bound := counting.retries_le refreshing
          have first : timesGivenUp settings.refreshRetries activity.keeper.retries.toNat = 0 :=
            if_neg (Nat.not_lt.mpr bound)
          rw [counting.settings_eq] at raised
          rw [raised.retries] at retries attempts exhaustions
          refine ⟨failures + 1, by omega, ?_, ?_⟩
          · rw [attempts, raised.attempts_eq, List.range'_succ]
            simp
          · rw [raised.exhaustions_eq] at exhaustions
            unfold timesGivenUp at *
            omega

/-- The count begins with a run, or with a move that resets it. -/
def BeginsCount (moves : List (Move σ)) (activity : Activity σ) : Prop :=
  moves = [] ∨ ∃ earlier reset, moves = earlier ++ [reset] ∧ (activity.run earlier).Resets reset

theorem retries_of_beginsCount {settings : Settings} {address : Address} {now : UInt32}
    {random : Octets} {store : σ} {moves : List (Move σ)}
    (begins : (start settings address now random store).BeginsCount moves) :
    ((start settings address now random store).run moves).keeper.retries = 0 := by
  rcases begins with rfl | ⟨earlier, reset, rfl, resets⟩
  · rfl
  · rw [run_concat]
    exact (countReset_step resets).retries

/-- What is told of failed refreshes after every run, and what follows. Since the count
began the failures are numbered from one. After each of them the timer is set with a
delay for its number, unless there is no such delay; only after the first one too many
it is told instead that there will be no other attempt, and then no request is made
before a token is stored or loaded. -/
theorem retries_run (settings : Settings) (address : Address) (now : UInt32) (random : Octets)
    (store : σ) (moves : List (Move σ)) (limited : settings.refreshRetries < 2 ^ 32 - 1) :
    let before := start settings address now random store
    let activity := before.run moves
    activity.keeper.Counted settings ∧
      AuthEvent.GivesUpAfter settings.refreshRetries activity.keeper.events ∧
      (∀ move attempt, activity.Fails move attempt →
        attempt = activity.keeper.retries.toNat + 1 ∧ (attempt ≤ settings.refreshRetries →
          ∀ delay, Backoff.retryDelay settings attempt activity.device.random = .ok delay →
            (activity.step move).keeper.HasTimer delay ∧
              (activity.step move).keeper.record ≠ none)) ∧
      (∀ first last, moves = first ++ last → before.BeginsCount first →
        (before.run first).Without Resets last →
          activity.keeper.attempts =
              (before.run first).keeper.attempts ++
                List.range' 1 activity.keeper.retries.toNat ∧
            activity.keeper.exhaustions = (before.run first).keeper.exhaustions +
              timesGivenUp settings.refreshRetries activity.keeper.retries.toNat) ∧
      ∀ first move last, moves = first ++ move :: last → (before.run first).GivesUp move →
        ((before.run first).step move).Without Obtains last →
          ∀ call generation, ¬ activity.Requests generation call := by
  intro before activity
  have counting : ∀ moves, (before.run moves).Counting settings :=
    (counting_start settings address now random store).run limited
  refine ⟨(counting moves).counted, (counting moves).told, ?_, ?_, ?_⟩
  · intro move attempt fails
    exact fails.hasTimer (counting moves)
  · intro first last split begins without
    have none : (before.run first).keeper.retries.toNat = 0 :=
      congrArg UInt32.toNat (retries_of_beginsCount begins)
    obtain ⟨failures, retries, attempts, exhaustions⟩ :=
      attempts_run (counting first) limited without
    rw [← run_append, ← split, none] at retries attempts exhaustions
    rw [Nat.zero_add] at retries attempts
    rw [show activity.keeper.retries.toNat = failures from retries]
    refine ⟨attempts, ?_⟩
    rw [show activity.keeper.retries.toNat = failures from retries] at exhaustions
    exact exhaustions
  · intro first move last split givesUp without call generation requests
    have missing : activity.keeper.record = none := by
      show (before.run moves).keeper.record = none
      rw [split, run_append, run]
      exact record_run_of_without_obtains givesUp.missing without
    have held := (requests_iff.mp requests).2.2.1
    rw [missing] at held
    cases held

def tryTwice : Activity Memory :=
  start { refreshRetries := 1 } sample.device.address 1000 [] {}

def holdToken : List (Move Memory) := [.load, .connect, .hold "abcdefghijklmnop" 3600]

def sendInVain : List (Move Memory) :=
  [.arrange 0, .refresh, .enter 1, .sent 1 (.error .timeout), .report 1, .refresh, .enter 2,
    .sent 2 (.error .timeout)]

theorem retries_sendInVain :
    ({ refreshRetries := 1 } : Settings).refreshRetries < 2 ^ 32 - 1 ∧
      (tryTwice.run (holdToken ++ sendInVain ++ [.report 2])).keeper.attempts = [1, 2] ∧
      (tryTwice.run (holdToken ++ sendInVain)).GivesUp (.report 2) ∧
      ∀ call generation, ¬ (tryTwice.run
        (holdToken ++ sendInVain ++ [.report 2, .refresh])).Requests generation call := by
  have limited : ({ refreshRetries := 1 } : Settings).refreshRetries < 2 ^ 32 - 1 := by decide
  have begins : tryTwice.BeginsCount holdToken := by
    right
    refine ⟨[.load, .connect], .hold "abcdefghijklmnop" 3600, rfl, .replaced ?_ ?_⟩
    · decide +kernel
    · decide +kernel
  have unreset : (tryTwice.run holdToken).Without Resets (sendInVain ++ [.report 2]) := by
    refine ⟨?_, ?_, ?_, ?_, ?_, ?_, ?_, ?_, ?_, trivial⟩
    all_goals
      intro resets
      cases resets
  have unobtained : ((tryTwice.run (holdToken ++ sendInVain)).step (.report 2)).Without Obtains
      [.refresh] := by
    refine ⟨?_, trivial⟩
    intro obtains
    cases obtains
  have givesUp : (tryTwice.run (holdToken ++ sendInVain)).GivesUp (.report 2) := by
    refine ⟨AuthEvent.reports 1 2 "transport error: request timed out", 2, ?_, ?_⟩
    · decide +kernel
    · decide
  have told := (retries_run _ _ _ _ _ (holdToken ++ sendInVain ++ [.report 2]) limited).2.2.2.1
    holdToken (sendInVain ++ [.report 2]) (List.append_assoc _ _ _) begins unreset
  have stopped := (retries_run _ _ _ _ _ (holdToken ++ sendInVain ++ [.report 2, .refresh])
    limited).2.2.2.2 (holdToken ++ sendInVain) (.report 2) [.refresh] rfl givesUp unobtained
  refine ⟨limited, told.1.trans ?_, givesUp, stopped⟩
  decide +kernel

def longestDelays : Settings :=
  { backoffBase := Span.longest, backoffCap := Span.longest, backoffJitter := 0 }

def goUnanswered : List (Move Memory) :=
  [.load, .connect, .hold "abcdefghijklmnop" 50, .arrange 0, .begin 0, .enter 1, .sent 1 (.ok ())]

/-- Its delay is drawn from the longest span, which as a float is too long for a span. So no
timer is set after the first failure, although the token is held and may be tried again. -/
theorem not_hasTimer_goUnanswered :
    let activity := (start longestDelays ⟨List.replicate 6 0, rfl⟩ 1000 [] {}).run goUnanswered
    longestDelays.check = .ok () ∧ activity.Fails (.wake 1) 1 ∧
      1 ≤ longestDelays.refreshRetries ∧ (activity.step (.wake 1)).keeper.record ≠ none ∧
      ∀ delay, ¬ (activity.step (.wake 1)).keeper.HasTimer delay := by
  intro activity
  have ended : (activity.step (.wake 1)).keeper.tasks = [] := by decide +kernel
  refine ⟨by decide +kernel, ⟨Device.noAnswer, [], by decide +kernel⟩, by decide +kernel,
    by decide +kernel, ?_⟩
  rintro delay ⟨id, _, member⟩
  rw [ended] at member
  cases member

end Activity

end DeviceAuth
