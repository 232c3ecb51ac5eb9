import DeviceAuth.Bench.Call

/-! Running the bench. Whatever can go on without waiting goes on first; then time
jumps to the next alarm. At an alarm the calls that somebody waits for go on before
everything else, and the other sleepers follow in the order in which they set their
alarms; tasks that were launched meanwhile come last. -/

namespace DeviceAuth

namespace Bench

/-! ## What can go on -/

def wake (sleeper : Sleeper) (bench : Bench) : Bench :=
  match sleeper with
  | .call id => ((bench.waiting? id).map (bench.goOn id)).getD bench
  | .limit id => ((bench.waiting? id).map (bench.reachLimit id)).getD bench
  | .patience id => ((bench.waiting? id).map (bench.drop id)).getD bench
  | .task id => { bench with device := bench.device.wakeTask id }
  | .watchdog id =>
      let (reply, bench) := bench.keep (bench.device.wakeWatchdog id)
      { bench with notices := bench.notices ++ reply.toList }

def beginTask (task : Task) (bench : Bench) : Bench :=
  let begun := { bench with tasksBegun := task.id + 1 }
  match task.duty with
  | .launchAfter delay => (begun.sleepFor? delay (.task task.id)).getD (begun.wake (.task task.id))
  | .watch _ limit => (begun.sleepFor? limit (.task task.id)).getD (begun.wake (.task task.id))
  | .refresh =>
      let (move, bench) := begun.keep (begun.device.openLaunched task.id)
      { bench with nextCall := bench.nextCall + 1 }.goOnRefresh bench.nextCall move

def beginWatchdog (watchdog : Provisioning.Watchdog) (bench : Bench) : Bench :=
  let begun := { bench with watchdogsBegun := watchdog.id + 1 }
  (begun.sleepUntil? watchdog.deadline.millisecondsUp (.watchdog watchdog.id)).getD
    (begun.wake (.watchdog watchdog.id))

def beginAll : Nat → Bench → Bench
  | 0, bench => bench
  | count + 1, bench =>
      match bench.device.keeper.tasks.find? fun task => bench.tasksBegun ≤ task.id with
      | some task => beginAll count (bench.beginTask task)
      | none =>
          match bench.device.session.watchdogs.find? fun watchdog =>
              bench.watchdogsBegun ≤ watchdog.id with
          | some watchdog => beginAll count (bench.beginWatchdog watchdog)
          | none => bench

def greatestBegun (bench : Bench) : Nat :=
  bench.device.keeper.tasks.length + bench.device.session.watchdogs.length +
    3 * (bench.device.settings.refreshRetries + 2)

def settle (bench : Bench) : Bench := bench.beginAll bench.greatestBegun

/-! ## Passing time -/

def takeTurns (ids : List Nat) (bench : Bench) : Bench :=
  ids.foldl
    (fun bench id =>
      match bench.waiting? id with
      | some (.turn code) =>
          if bench.turns.head? = some id then bench.takeTurn id code else bench
      | _ => bench)
    bench

def isAwaited (awaited : List Nat) (sleeper : Sleeper) : Bool :=
  match sleeper.call? with
  | some id => awaited.contains id
  | none => false

def wakeAll (alarms : List Alarm) (bench : Bench) : Bench :=
  alarms.foldl (fun bench alarm => bench.wake alarm.sleeper) bench

def tick (awaited : List Nat) (time : Nat) (bench : Bench) : Bench :=
  let due := bench.alarms.filter fun alarm => alarm.due ≤ time
  let there := { bench.setTime time with
    alarms := bench.alarms.filter fun alarm => time < alarm.due }
  let called := there.wakeAll (due.filter fun alarm => isAwaited awaited alarm.sleeper)
  let turned := called.takeTurns awaited
  (turned.wakeAll (due.filter fun alarm => !isAwaited awaited alarm.sleeper)).settle

def passTo (awaited : List Nat) (finish : Nat) : Nat → Bench → Bench
  | 0, bench => bench.setTime finish
  | ticks + 1, bench =>
      match bench.nextDue? fun _ => true with
      | some due =>
          if due ≤ finish then passTo awaited finish ticks (bench.tick awaited due)
          else bench.setTime finish
      | none => bench.setTime finish

def advance (duration : Nat) (bench : Bench) : Bench :=
  bench.passTo [] (bench.time + duration) duration

def passUntilEnded (awaited : List Nat) : Nat → Bench → Bench
  | 0, bench => bench
  | rounds + 1, bench =>
      match bench.nextDue? (isAwaited awaited) with
      | some due =>
          passUntilEnded awaited rounds (bench.passTo awaited due (due - bench.time))
      | none => bench

/-! ## Waiting for calls -/

def beginCalls (bench : Bench) : List Call → List Nat × Bench
  | [] => ([], bench)
  | call :: rest =>
      let id := bench.nextCall
      let begun := { bench with nextCall := id + 1 }.beginCall id call
      let (ids, bench) := begun.beginCalls rest
      (id :: ids, bench)

def limitPatience (limit : Span) (ids : List Nat) (bench : Bench) : Bench :=
  ids.foldl
    (fun bench id =>
      match bench.waiting? id with
      | some waiting => (bench.sleepFor? limit (.patience id)).getD (bench.drop id waiting)
      | none => bench)
    bench

def greatestRounds (settings : Settings) (calls : Nat) : Nat :=
  calls * (2 * (settings.claimAttempts + 1) + 1)

def resultsOf (ids : List Nat) (bench : Bench) : List CallResult :=
  ids.filterMap fun id => (bench.results.find? fun result => result.1 == id).map (·.2)

def waitFor (calls : List Call) (patience : Option Span) (bench : Bench) :
    List CallResult × Bench :=
  let (ids, begun) := bench.beginCalls calls
  let limited :=
    match patience with
    | some limit => begun.limitPatience limit ids
    | none => begun
  let ended := limited.settle.passUntilEnded ids
    (greatestRounds bench.device.settings calls.length)
  (ended.resultsOf ids, ended)

def launchRefresh (bench : Bench) : Bench :=
  { bench with device := bench.device.onKeeper Keeper.launchRefresh }

end Bench

end DeviceAuth
