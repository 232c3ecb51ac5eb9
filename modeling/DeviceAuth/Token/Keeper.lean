import DeviceAuth.Backoff
import DeviceAuth.Token.Record

/-! The keeper of the token. It holds the bearer token in memory, and refreshes it
before it expires: a timer launches a refresh, a watchdog waits for the answer,
and a failed refresh is tried again after a delay, until too many have failed in a
row. Timers, watchdogs and launched refreshes are tasks of the keeper; whoever runs
it decides when a task that may go on does go on.

This module says what each step does to the memory of the keeper. Storage comes in
where the steps are put together. -/

namespace DeviceAuth

inductive Phase where
  | uninitialized
  | initialized
  | valid
  | invalidOrMissing
  | refreshInProgress
deriving DecidableEq, Repr

def Phase.name : Phase → String
  | .uninitialized => "Uninitialized"
  | .initialized => "Initialized"
  | .valid => "Valid"
  | .invalidOrMissing => "InvalidOrMissing"
  | .refreshInProgress => "RefreshInProgress"

inductive AuthEvent where
  | authenticated (expiry : UInt32)
  | tokenStored (expiry : UInt32)
  | refreshed (expiry : UInt32)
  | refreshFailed (attempt : Nat) (reason : String)
  | refreshExhausted (attempts : Nat)
  | tokenCleared
  | authFailed (reason : String)
deriving DecidableEq, Repr

inductive Schedule where
  | immediate
  | armed (moment : UInt32)
  | disabled
  | noToken
deriving DecidableEq, Repr

inductive Duty where
  | launchAfter (delay : Span)
  | watch (generation : UInt64) (limit : Span)
  | refresh
deriving DecidableEq, Repr

structure Task where
  id : Nat
  duty : Duty
deriving DecidableEq, Repr

structure Keeper where
  phase : Phase := .uninitialized
  record : Option TokenRecord := none
  connected : Bool := false
  retries : UInt32 := 0
  backoff : Backoff
  /-- Counts the refreshes, so that what comes late can be told apart. -/
  generation : UInt64 := 0
  timer : Option Nat := none
  watchdog : Option Nat := none
  inFlight : Bool := false
  autoRefresh : Bool := true
  tasks : List Task := []
  nextTask : Nat := 0
  events : List AuthEvent := []

namespace Keeper

def create (settings : Settings) : Keeper := { backoff := Backoff.ofSettings settings }

def emit (keeper : Keeper) (event : AuthEvent) : Keeper :=
  { keeper with events := keeper.events ++ [event] }

/-! ## Tasks -/

def duty? (keeper : Keeper) (id : Nat) : Option Duty :=
  (keeper.tasks.find? fun task => task.id == id).map (·.duty)

def endTask (id : Nat) (keeper : Keeper) : Keeper :=
  { keeper with tasks := keeper.tasks.filter fun task => task.id ≠ id }

def launch (duty : Duty) (keeper : Keeper) : Keeper :=
  { keeper with
    tasks := keeper.tasks ++ [⟨keeper.nextTask, duty⟩]
    nextTask := keeper.nextTask + 1 }

def launchRefresh (keeper : Keeper) : Keeper := keeper.launch .refresh

def fireTimer (id : Nat) (keeper : Keeper) : Keeper := (keeper.endTask id).launchRefresh

def cancelTimer (keeper : Keeper) : Keeper :=
  { keeper with
    tasks := keeper.tasks.filter fun task => keeper.timer ≠ some task.id
    timer := none }

def cancelWatchdog (keeper : Keeper) : Keeper :=
  { keeper with
    tasks := keeper.tasks.filter fun task => keeper.watchdog ≠ some task.id
    watchdog := none }

def armTimer (delay : Span) (keeper : Keeper) : Keeper :=
  let cleared := keeper.cancelTimer
  { cleared.launch (.launchAfter delay) with timer := some cleared.nextTask }

def armWatchdog (generation : UInt64) (limit : Span) (keeper : Keeper) : Keeper :=
  let cleared := keeper.cancelWatchdog
  { cleared.launch (.watch generation limit) with watchdog := some cleared.nextTask }

/-! ## Judging the token -/

def settle (settings : Settings) (now : UInt32) (keeper : Keeper) : Keeper :=
  { keeper with
    phase :=
      match keeper.record with
      | some record =>
          if record.isValidAt now settings.validityMargin.secondsWord then .valid
          else .invalidOrMissing
      | none => .invalidOrMissing }

def isTokenValid (settings : Settings) (now : UInt32) (keeper : Keeper) : Bool :=
  match keeper.record with
  | some record => record.isValidAt now settings.validityMargin.secondsWord
  | none => false

def resetRetries (keeper : Keeper) : Keeper :=
  { keeper with retries := 0, backoff := keeper.backoff.reset }

/-! ## Scheduling -/

def dueMoment (expiry buffer now : UInt32) : Except Panic (UInt32 × UInt32) := do
  let moment ← Word.subtract expiry buffer
  let seconds ← Word.subtract moment now
  pure (moment, seconds)

/-- Arrange for the next refresh: at once if less than the buffer is left, otherwise
when that is the case. -/
def schedule (settings : Settings) (now : UInt32) (keeper : Keeper) :
    Except Panic Schedule × Keeper :=
  let cleared := keeper.cancelTimer
  if !cleared.autoRefresh then (.ok .disabled, cleared)
  else
    match cleared.record with
    | none => (.ok .noToken, cleared)
    | some record =>
        let buffer := settings.refreshBuffer.secondsWord
        if record.remaining now < buffer then (.ok .immediate, cleared.launchRefresh)
        else
          match dueMoment record.expiry (UInt32.ofNat buffer) now with
          | .ok (moment, seconds) =>
              (.ok (.armed moment), cleared.armTimer (Span.ofSeconds seconds.toNat))
          | .error panic => (.error panic, cleared)

def allowAutoRefresh (enabled : Bool) (keeper : Keeper) : Keeper :=
  { keeper with autoRefresh := enabled }

def setAutoRefresh (settings : Settings) (now : UInt32) (enabled : Bool) (keeper : Keeper) :
    Except Panic Schedule × Keeper :=
  (keeper.allowAutoRefresh enabled).schedule settings now

/-! ## Refreshing -/

inductive Start where
  | alreadyUnderWay
  | refused (failure : Failure)
  | send (generation : UInt64) (proof : String)
deriving DecidableEq

def notInitialized : Failure := .state "token manager not initialized"

def connect (keeper : Keeper) : Keeper := { keeper with connected := true }

/-- Take the flag of the refresh that is under way, unless it is taken. The lock of
the keeper is not needed for this. -/
def takeFlag? (keeper : Keeper) : Option Keeper :=
  if keeper.inFlight then none else some { keeper with inFlight := true }

def releaseFlag (keeper : Keeper) : Keeper := { keeper with inFlight := false }

def enterRefresh (settings : Settings) (keeper : Keeper) :
    Except Failure (UInt64 × String) × Keeper :=
  if keeper.phase = .uninitialized then (.error notInitialized, keeper)
  else
    match keeper.record with
    | none => (.error (.state "no token to refresh"), keeper)
    | some record =>
        let generation := keeper.generation + 1
        (.ok (generation, record.proof),
          { keeper with
            generation := generation
            phase := .refreshInProgress }.armWatchdog generation settings.responseTimeout)

def beginRefresh (settings : Settings) (keeper : Keeper) : Start × Keeper :=
  match keeper.takeFlag? with
  | none => (.alreadyUnderWay, keeper)
  | some taken =>
      match taken.enterRefresh settings with
      | (.error failure, refused) => (.refused failure, refused.releaseFlag)
      | (.ok (generation, proof), entered) => (.send generation proof, entered)

def IsAwaited (generation : UInt64) (keeper : Keeper) : Prop :=
  keeper.generation = generation ∧ keeper.phase = .refreshInProgress

instance (generation : UInt64) (keeper : Keeper) : Decidable (keeper.IsAwaited generation) :=
  inferInstanceAs (Decidable (_ ∧ _))

def endWait (keeper : Keeper) : Keeper := { keeper.cancelWatchdog with inFlight := false }

def countFailure (attempt : UInt32) (reason : String) (keeper : Keeper) : Keeper :=
  { keeper.endWait with retries := attempt }.emit (.refreshFailed attempt.toNat reason)

def drop (keeper : Keeper) : Keeper :=
  { keeper.cancelTimer with record := none, phase := .invalidOrMissing }

/-- Set the timer for another attempt. The delay is drawn with the next random
word. -/
def retryLater (settings : Settings) (now : UInt32) (random : Octets) (keeper : Keeper) :
    Except Panic Unit × Keeper × Octets :=
  match keeper.backoff.next random with
  | (.ok delay, backoff, random) =>
      (.ok (), { keeper.settle settings now with backoff := backoff }.armTimer delay, random)
  | (.error panic, backoff, random) =>
      (.error panic, { keeper.settle settings now with backoff := backoff }, random)

/-- A refresh has failed. If it is the one that is waited for, it is counted, and
tried again later or given up; otherwise it is passed over. One that cannot be counted frees
the flag, ends the watchdog and stops there. -/
def failRefresh (settings : Settings) (now : UInt32) (generation : UInt64) (reason : String)
    (random : Octets) (keeper : Keeper) : Except Panic Unit × Keeper × Octets :=
  if keeper.IsAwaited generation then
    match Word.add keeper.retries 1 with
    | .error panic => (.error panic, keeper.endWait, random)
    | .ok attempt =>
        let counted := keeper.countFailure attempt reason
        if settings.refreshRetries < attempt.toNat then
          (.ok (), counted.drop.emit (.refreshExhausted attempt.toNat), random)
        else counted.retryLater settings now random
  else (.ok (), keeper, random)

def settleAbandoned (settings : Settings) (now : UInt32) (generation : UInt64)
    (keeper : Keeper) : Keeper :=
  if keeper.IsAwaited generation then keeper.cancelWatchdog.settle settings now else keeper

def abandonRefresh (settings : Settings) (now : UInt32) (generation : UInt64)
    (keeper : Keeper) : Keeper :=
  keeper.releaseFlag.settleAbandoned settings now generation

def takeAnswer (keeper : Keeper) : Keeper :=
  { keeper.endWait with generation := keeper.generation + 1 }

def missToken (keeper : Keeper) : Keeper := { keeper with phase := .invalidOrMissing }

/-! ## Holding and dropping the token -/

def hold (settings : Settings) (now : UInt32) (record : TokenRecord) (keeper : Keeper) :
    Keeper :=
  { keeper.resetRetries with record := some record }.settle settings now

def replace (settings : Settings) (now : UInt32) (record : TokenRecord) (keeper : Keeper) :
    Keeper :=
  keeper.endWait.hold settings now record

def beginWith (settings : Settings) (now : UInt32) (stored : Option TokenRecord)
    (keeper : Keeper) : Keeper :=
  match stored with
  | some record => keeper.hold settings now record
  | none => { keeper.resetRetries with phase := .initialized }

def wipe (keeper : Keeper) : Keeper :=
  { keeper.cancelTimer.cancelWatchdog with
    generation := keeper.generation + 1
    record := none
    phase := if keeper.phase = .uninitialized then .uninitialized else .invalidOrMissing
    inFlight := false }

/-- Whether a task is ended by a shutdown. Refreshes that were launched still run,
and find that there is nothing to do. -/
def isStoppedByShutdown : Duty → Bool
  | .refresh => false
  | _ => true

def shutdown (keeper : Keeper) : Keeper :=
  { keeper with
    tasks := keeper.tasks.filter fun task => !isStoppedByShutdown task.duty
    timer := none
    watchdog := none
    generation := keeper.generation + 1
    record := none
    connected := false
    phase := .uninitialized
    inFlight := false }

end Keeper

end DeviceAuth
