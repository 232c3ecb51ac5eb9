import DeviceAuth.Provisioning.Session

/-! The course of a session. A session is driven by calls, each made at a moment of its
own, and in between others may have used the store. A course is a list of such calls
in any order: calls that are not possible change nothing. -/

namespace DeviceAuth

namespace Provisioning

inductive Call (σ : Type) where
  | setKey (key : PopKey)
  | clearKey
  | start
  | connect
  | disconnect
  | packet (octets : Octets)
  | checkTimeout
  | launchWatchdog
  | wakeWatchdog (id : Nat)
  | stop
  | elsewhere (store : σ)

structure TimedCall (σ : Type) where
  now : Span
  call : Call σ

abbrev Course (σ : Type) := List (TimedCall σ)

structure Sitting (σ : Type) where
  session : Session := {}
  store : σ

namespace Sitting

variable {σ : Type}

def onSession (change : Session → Session) (sitting : Sitting σ) : Sitting σ :=
  { sitting with session := change sitting.session }

def step [Backend σ] (settings : Settings) (timed : TimedCall σ) (sitting : Sitting σ) :
    Sitting σ :=
  match timed.call with
  | .setKey key => sitting.onSession (·.setKey key)
  | .clearKey => sitting.onSession Session.clearKey
  | .start => sitting.onSession fun session => (session.start timed.now).2
  | .connect => sitting.onSession Session.connect
  | .disconnect => sitting.onSession Session.disconnect
  | .packet octets =>
      let (_, session, store) :=
        sitting.session.handlePacket settings timed.now octets sitting.store
      ⟨session, store⟩
  | .checkTimeout => sitting.onSession fun session => (session.checkTimeout settings timed.now).2
  | .launchWatchdog => sitting.onSession fun session => (session.launchWatchdog settings).2
  | .wakeWatchdog id =>
      sitting.onSession fun session => (session.wakeWatchdog settings timed.now id).2
  | .stop => sitting.onSession Session.stop
  | .elsewhere store => { sitting with store := store }

def run [Backend σ] (settings : Settings) : Course σ → Sitting σ → Sitting σ
  | [], sitting => sitting
  | timed :: rest, sitting => run settings rest (sitting.step settings timed)

theorem run_append [Backend σ] (settings : Settings) (first second : Course σ)
    (sitting : Sitting σ) :
    sitting.run settings (first ++ second) =
      (sitting.run settings first).run settings second := by
  induction first generalizing sitting with
  | nil => rfl
  | cons timed rest induction => exact induction (sitting.step settings timed)

theorem run_concat [Backend σ] (settings : Settings) (course : Course σ) (timed : TimedCall σ)
    (sitting : Sitting σ) :
    sitting.run settings (course ++ [timed]) =
      (sitting.run settings course).step settings timed :=
  run_append settings course [timed] sitting

end Sitting

end Provisioning

end DeviceAuth
