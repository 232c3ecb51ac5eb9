import DeviceAuth.Provisioning.Packet
import DeviceAuth.Provisioning.Reply
import DeviceAuth.Settings
import DeviceAuth.Storage.Credentials

/-! A provisioning session. It waits for a peer, examines the packets that the peer
writes, and ends with the first good one, after too many bad ones, or when its time
is up. The time is checked with every packet, and by a watchdog if one is
launched. -/

namespace DeviceAuth

namespace Provisioning

inductive Stage where
  | idle
  | advertising
  | connected
  | awaitingPacket
  | decrypting
  | validating
  | succeeded
  | failed
  | timedOut
deriving DecidableEq, Repr

namespace Stage

def name : Stage → String
  | .idle => "Idle"
  | .advertising => "Advertising"
  | .connected => "Connected"
  | .awaitingPacket => "AwaitingPacket"
  | .decrypting => "Decrypting"
  | .validating => "Validating"
  | .succeeded => "Succeeded"
  | .failed => "Failed"
  | .timedOut => "TimedOut"

def isTerminal : Stage → Bool
  | .succeeded => true
  | .failed => true
  | .timedOut => true
  | _ => false

def isRunning (stage : Stage) : Bool := !stage.isTerminal && stage != .idle

def takesPackets : Stage → Bool
  | .connected => true
  | .awaitingPacket => true
  | _ => false

end Stage

inductive Event where
  | started
  | succeeded
  | failed (rejection : Rejection)
  | timedOut
  | stopped
deriving DecidableEq, Repr

structure Watchdog where
  id : Nat
  deadline : Span
deriving DecidableEq, Repr

structure Session where
  stage : Stage := .idle
  key : Option PopKey := none
  startedAt : Option Span := none
  failures : Nat := 0
  watchdog : Option Nat := none
  watchdogs : List Watchdog := []
  nextWatchdog : Nat := 0
  events : List Event := []

namespace Session

def emit (session : Session) (event : Event) : Session :=
  { session with events := session.events ++ [event] }

def dismissWatchdog (session : Session) : Session :=
  match session.watchdog with
  | none => session
  | some id =>
      { session with
        watchdog := none
        watchdogs := session.watchdogs.filter fun watchdog => watchdog.id ≠ id }

def setKey (key : PopKey) (session : Session) : Session := { session with key := some key }

def clearKey (session : Session) : Session := { session with key := none }

def start (now : Span) (session : Session) : Except Failure Unit × Session :=
  if session.stage.isRunning then (.error (.state "provisioning already running"), session)
  else
    (.ok (), { session.dismissWatchdog with
      stage := .advertising
      startedAt := some now
      failures := 0 }.emit .started)

def connect (session : Session) : Session :=
  if session.stage = .advertising then { session with stage := .connected } else session

def disconnect (session : Session) : Session :=
  if session.stage.takesPackets then { session with stage := .advertising } else session

def isOverdue (settings : Settings) (now : Span) (session : Session) : Bool :=
  match session.startedAt with
  | none => false
  | some start =>
      session.stage.isRunning && start.nanoseconds + settings.provisioningTimeout.nanoseconds ≤
        now.nanoseconds

def checkTimeout (settings : Settings) (now : Span) (session : Session) : Bool × Session :=
  if session.isOverdue settings now then
    (true, { session with stage := .timedOut, key := none }.dismissWatchdog.emit .timedOut)
  else (false, session)

def decrypt (octets : Octets) (session : Session) : Except Rejection Octets × Session :=
  match session.key with
  | none => (.error .noPopKey, session)
  | some key =>
      match Packet.ofOctets octets with
      | .error failure => (.error (.ofFailure failure), session)
      | .ok packet =>
          let session := { session with stage := .decrypting }
          match Packet.opened key packet with
          | .error failure => (.error (.ofFailure failure), session)
          | .ok text => (.ok text, session)

def validate (text : Octets) (session : Session) : Except Rejection Details × Session :=
  let session := { session with stage := .validating }
  match Details.ofOctets text with
  | .error failure => (.error (.ofFailure failure), session)
  | .ok details => (.ok details, session)

/-- Examine a packet, and store what is in it. -/
def process {σ : Type} [Backend σ] (octets : Octets) (session : Session) (store : σ) :
    Except Rejection Unit × Session × σ :=
  match session.decrypt octets with
  | (.error rejection, session) => (.error rejection, session, store)
  | (.ok text, session) =>
      match session.validate text with
      | (.error rejection, session) => (.error rejection, session, store)
      | (.ok details, session) =>
          match (Credentials.saveDetails details).perform store with
          | (.ok (), store) => (.ok (), session, store)
          | (.error _, store) => (.error .saveFailed, session, store)

def failureLimit (settings : Settings) : Nat := max settings.provisioningFailures 1

def succeed (session : Session) : Session :=
  { session with stage := .succeeded, key := none }.dismissWatchdog.emit .succeeded

def reject (settings : Settings) (rejection : Rejection) (session : Session) : Session :=
  let failures := session.failures + 1
  if rejection.isTerminal || failureLimit settings ≤ failures then
    { session with stage := .failed, failures := failures }.dismissWatchdog.emit
      (.failed rejection)
  else { session with stage := .awaitingPacket, failures := failures }

def handlePacket {σ : Type} [Backend σ] (settings : Settings) (now : Span) (octets : Octets)
    (session : Session) (store : σ) : Reply × Session × σ :=
  match session.checkTimeout settings now with
  | (true, session) => (.timeout, session, store)
  | (false, session) =>
      if session.stage.takesPackets then
        match session.process octets store with
        | (.ok (), session, store) => (.accepted, session.succeed, store)
        | (.error rejection, session, store) =>
            (.rejected rejection, session.reject settings rejection, store)
      else if session.stage = .timedOut then (.timeout, session, store)
      else (.rejected .internalError, session, store)

def launchWatchdog (settings : Settings) (session : Session) : Except Abort Unit × Session :=
  match session.startedAt, session.stage.isRunning with
  | some start, true =>
      let dismissed := session.dismissWatchdog
      let appointed := { dismissed with
        watchdog := some dismissed.nextWatchdog
        nextWatchdog := dismissed.nextWatchdog + 1 }
      match start.after settings.provisioningTimeout with
      | .ok deadline =>
          (.ok (), { appointed with
            watchdogs := dismissed.watchdogs ++ [⟨dismissed.nextWatchdog, deadline⟩] })
      -- The new watchdog is on duty, but it does not sleep, and so never wakes.
      | .error panic => (.error panic, appointed)
  | _, _ => (.error (Failure.state "provisioning not running"), session)

/-- A watchdog wakes. The peer is told if it was the watchdog that ended the
session. -/
def wakeWatchdog (settings : Settings) (now : Span) (id : Nat) (session : Session) :
    Option Reply × Session :=
  if session.watchdogs.any fun watchdog => watchdog.id == id then
    let rest := { session with
      watchdogs := session.watchdogs.filter fun watchdog => watchdog.id ≠ id }
    match rest.checkTimeout settings now with
    | (true, session) => (some .timeout, session)
    | (false, session) => (none, session)
  else (none, session)

def stop (session : Session) : Session :=
  if session.stage = .idle then session
  else { session with stage := .idle, startedAt := none }.dismissWatchdog.emit .stopped

end Session

end Provisioning

end DeviceAuth
