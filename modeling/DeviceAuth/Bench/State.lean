import DeviceAuth.Bench.Script
import DeviceAuth.Device.Claim
import DeviceAuth.Device.Provisioning
import DeviceAuth.Storage.Monitor

/-! The state of the bench: a device, the scripts of its surroundings, the calls that
are under way, and the alarms that were set. Time passes in whole milliseconds, from
one alarm to the next. -/

namespace DeviceAuth

namespace Bench

abbrev Store := Monitored AnyStore

inductive Purpose where
  | grant
  | authentication
deriving DecidableEq, Repr

inductive Waiting where
  | turn (code : String)
  | outcome (purpose : Purpose) (effort : Claim.Effort) (outcome : Claim.Outcome)
  | rest (purpose : Purpose) (effort : Claim.Effort)
  | sending (generation : UInt64) (result : Except LinkFailure Unit)

inductive CallResult where
  | granted (result : Except Abort Claim.Grant)
  | ended (result : Except Abort Unit)
  | dropped

inductive Sleeper where
  | call (id : Nat)
  | limit (id : Nat)
  | patience (id : Nat)
  | task (id : Nat)
  | watchdog (id : Nat)
deriving DecidableEq, Repr

namespace Sleeper

def call? : Sleeper → Option Nat
  | .call id => some id
  | .limit id => some id
  | .patience id => some id
  | _ => none

end Sleeper

structure Alarm where
  due : Nat
  sleeper : Sleeper
deriving DecidableEq, Repr

end Bench

structure Bench where
  device : Device Bench.Store
  outcomes : List (Bench.Delayed Claim.Outcome) := []
  sendings : List Bench.Sending := []
  calls : List (Nat × Bench.Waiting) := []
  nextCall : Nat := 0
  turns : List Nat := []
  alarms : List Bench.Alarm := []
  tasksBegun : Nat := 0
  watchdogsBegun : Nat := 0
  results : List (Nat × Bench.CallResult) := []
  requests : List (String × String) := []
  messages : List String := []
  notices : List Reply := []

namespace Bench

def time (bench : Bench) : Nat := bench.device.elapsed.millisecondsUp

def setTime (time : Nat) (bench : Bench) : Bench :=
  { bench with device := { bench.device with elapsed := Span.ofMilliseconds time } }

def keep {α : Type} (bench : Bench) (answer : α × Device Store) : α × Bench :=
  (answer.1, { bench with device := answer.2 })

/-! ## Alarms -/

def greatestDelay : Nat := UInt64.size / 2 - 1

def farFuture : Nat := 86400 * 365 * 30

def milliseconds (delay : Span) : Nat :=
  if greatestDelay < delay.seconds then farFuture * 1000 else delay.millisecondsUp

def sleepUntil? (due : Nat) (sleeper : Sleeper) (bench : Bench) : Option Bench :=
  if due ≤ bench.time then none
  else some { bench with alarms := bench.alarms ++ [⟨due, sleeper⟩] }

def sleepFor? (delay : Span) (sleeper : Sleeper) (bench : Bench) : Option Bench :=
  bench.sleepUntil? (bench.time + milliseconds delay) sleeper

def nextDue? (counts : Sleeper → Bool) (bench : Bench) : Option Nat :=
  ((bench.alarms.filter fun alarm => counts alarm.sleeper).map (·.due)).min?

/-! ## Calls -/

def waiting? (id : Nat) (bench : Bench) : Option Waiting :=
  (bench.calls.find? fun call => call.1 == id).map (·.2)

def await (id : Nat) (waiting : Waiting) (bench : Bench) : Bench :=
  { bench with calls := (bench.calls.filter fun call => call.1 ≠ id) ++ [(id, waiting)] }

def finish (id : Nat) (result : CallResult) (bench : Bench) : Bench :=
  { bench with
    calls := bench.calls.filter fun call => call.1 ≠ id
    turns := bench.turns.filter fun turn => turn ≠ id
    alarms := bench.alarms.filter fun alarm => alarm.sleeper.call? ≠ some id
    results := bench.results ++ [(id, result)] }

end Bench

end DeviceAuth
