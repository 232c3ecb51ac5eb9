import DeviceAuth.Device.Claim

/-! Activity: a device and the calls that are under way on it. Callers, timers and
refreshes that were launched use the device at the same time. A call does its work in
pieces. Within a piece it has the lock of the keeper, and no one comes in between;
from one piece to the next anything else may happen. Taking the flag of the refresh
under way and giving it back need no lock, and are pieces of their own.

A move is one piece of some call, a task whose time has come, or a change in the
surroundings. A run is a list of moves in any order: moves that are not possible
change nothing. -/

namespace DeviceAuth

inductive Stage where
  | entering
  | refused
  | sending (generation : UInt64)
  | failing (generation : UInt64) (reason : String)
  | scheduling
deriving DecidableEq, Repr

def Stage.isRefresh : Stage → Bool
  | .scheduling => false
  | _ => true

/-- One step of an activity on a device with a store of type `σ`: what is done between two
waits. When whoever refreshed goes away, the keeper can only be settled if its lock happens
to be free. -/
inductive Move (σ : Type) where
  | surroundings (now : UInt32) (random : Octets) (store : σ)
  | connect
  | load
  | hold (token : String) (lifetime : UInt32)
  | schedule
  | allow (enabled : Bool)
  | answer (message : String)
  | clear
  | shutdown
  | confirm
  | deny (message : String)
  | refresh
  | begin (task : Nat)
  | wake (task : Nat)
  | expire (task : Nat)
  | enter (call : Nat)
  | release (call : Nat)
  | sent (call : Nat) (result : Except LinkFailure Unit)
  | report (call : Nat)
  | drop (call : Nat) (lockFree : Bool)
  | arrange (call : Nat)

/-- Whether a move does all that it has to do at once, so that no watchdog waits. -/
def Move.isPrompt {σ : Type} : Move σ → Bool
  | .expire _ => false
  | _ => true

structure Activity (σ : Type) where
  device : Device σ
  calls : Nat → Option Stage := fun _ => none
  nextCall : Nat := 0

namespace Activity

variable {σ : Type}

def start (settings : Settings) (address : Address) (now : UInt32) (random : Octets)
    (store : σ) : Activity σ :=
  { device := Device.create settings address now random store }

def keeper (activity : Activity σ) : Keeper := activity.device.keeper

def onDevice (change : Device σ → Device σ) (activity : Activity σ) : Activity σ :=
  { activity with device := change activity.device }

def onKeeper (change : Keeper → Keeper) (activity : Activity σ) : Activity σ :=
  activity.onDevice (·.onKeeper change)

def setCall (call : Nat) (stage : Option Stage) (activity : Activity σ) : Activity σ :=
  { activity with calls := fun id => if id = call then stage else activity.calls id }

def beginCall (stage : Stage) (activity : Activity σ) : Activity σ :=
  { activity.setCall activity.nextCall (some stage) with nextCall := activity.nextCall + 1 }

def goOn (answer : Except Failure Bool × Device σ) (activity : Activity σ) : Activity σ :=
  match answer with
  | (.ok true, device) => { activity with device := device }.beginCall .scheduling
  | (_, device) => { activity with device := device }

def takeFlag (activity : Activity σ) : Activity σ :=
  match activity.keeper.takeFlag? with
  | some taken => (activity.onKeeper fun _ => taken).beginCall .entering
  | none => activity

def enter (call : Nat) (activity : Activity σ) : Activity σ :=
  match activity.device.enterRefresh with
  | (.error _, device) => { activity with device := device }.setCall call (some .refused)
  | (.ok (generation, _), device) =>
      { activity with device := device }.setCall call
        (some (if device.keeper.connected then .sending generation
          else .failing generation (Failure.link .unavailable).message))

def step [Backend σ] (move : Move σ) (activity : Activity σ) : Activity σ :=
  match move with
  | .surroundings now random store =>
      activity.onDevice fun device =>
        { device with now := now, random := random, store := store }
  | .connect => activity.onKeeper Keeper.connect
  | .load => activity.goOn activity.device.takeStored
  | .hold token lifetime =>
      let (result, device) := activity.device.holdToken token lifetime
      activity.goOn (result.map fun _ => true, device)
  | .schedule => activity.onDevice fun device => device.schedule.2
  | .allow enabled =>
      (activity.onKeeper (Keeper.allowAutoRefresh enabled)).beginCall .scheduling
  | .answer message => activity.goOn (activity.device.applyAnswer message)
  | .clear => activity.onDevice fun device => device.clearToken.2
  | .shutdown => activity.onDevice Device.shutdown
  | .confirm => activity.onDevice Device.confirmClaim
  | .deny message => activity.onDevice (Device.emit (.authFailed message))
  | .refresh => activity.takeFlag
  | .begin task =>
      if activity.keeper.duty? task = some .refresh then
        (activity.onKeeper (Keeper.endTask task)).takeFlag
      else activity
  | .wake task => activity.onDevice (Device.wakeTask task)
  | .expire task =>
      match activity.keeper.duty? task with
      | some (.watch generation _) =>
          (activity.onKeeper (Keeper.endTask task)).beginCall
            (.failing generation Device.noAnswer)
      | _ => activity
  | .enter call =>
      match activity.calls call with
      | some .entering => activity.enter call
      | _ => activity
  | .release call =>
      match activity.calls call with
      | some .refused => (activity.onKeeper Keeper.releaseFlag).setCall call none
      | _ => activity
  | .sent call result =>
      match activity.calls call, result with
      | some (.sending _), .ok () => activity.setCall call none
      | some (.sending generation), .error failure =>
          activity.setCall call (some (.failing generation (Failure.link failure).message))
      | _, _ => activity
  | .report call =>
      match activity.calls call with
      | some (.failing generation reason) =>
          (activity.onDevice fun device => (device.failRefresh generation reason).2).setCall call
            none
      | _ => activity
  | .drop call lockFree =>
      match activity.calls call with
      | some .entering => (activity.onKeeper Keeper.releaseFlag).setCall call none
      | some (.sending generation) =>
          if lockFree then
            (activity.onDevice (Device.abandonRefresh generation)).setCall call none
          else (activity.onKeeper Keeper.releaseFlag).setCall call none
      | some (.failing _ _) => activity.setCall call none
      | _ => activity
  | .arrange call =>
      match activity.calls call with
      | some .scheduling => (activity.onDevice fun device => device.schedule.2).setCall call none
      | _ => activity

theorem step_report [Backend σ] {activity : Activity σ} {call : Nat} {generation : UInt64}
    {reason : String}
    (present : activity.calls call = some (.failing generation reason)) :
    activity.step (.report call) =
      (activity.onDevice fun device => (device.failRefresh generation reason).2).setCall call
        none := by
  simp only [step, present]

def run [Backend σ] : List (Move σ) → Activity σ → Activity σ
  | [], activity => activity
  | move :: rest, activity => run rest (activity.step move)

end Activity

end DeviceAuth
