import DeviceAuth.Activity

/-! Claimants: callers that authenticate a device at the same time. Each has a pairing
code and a client of its own, which works on the store of the device. Whoever was
admitted waits for the claim lock, which is only given back when a claim has come to its
end, so that one claim is under way at a time. A claim is made in pieces: while the
outcome of a request is waited for, during a rest, and while somebody else has the lock
of the keeper, anything may happen to the device. -/

namespace DeviceAuth

structure Client where
  settings : Settings
  address : Address

def Client.work {σ α : Type} (change : Device σ → α × Device σ) (client : Client)
    (device : Device σ) : α × Device σ :=
  let (result, after) :=
    change { device with settings := client.settings, address := client.address }
  (result, { after with settings := device.settings, address := device.address })

/-! ## Holding a token in pieces -/

namespace Device

variable {σ : Type} [Backend σ]

/-- What is done before the lock of the keeper is asked for: the ids are looked for that
the token is to be stored with. -/
def beginHold (token : String) (device : Device σ) :
    Except Failure (String × String) × Device σ :=
  if token.isEmpty then (.error (.state "refusing to store an empty token"), device)
  else
    let (ids, device) := device.run (tokenIds device.address)
    (.ok ids, device)

def endHold (token : String) (lifetime : UInt32) (ids : String × String) (device : Device σ) :
    Except Failure Unit × Device σ :=
  if device.keeper.phase = .uninitialized then (.error Keeper.notInitialized, device)
  else
    let record : TokenRecord := ⟨token, expiryAfter device.now lifetime, ids.1, ids.2⟩
    let (_, device) := device.perform (Credentials.saveRecord record)
    let held := device.onKeeper (Keeper.replace device.settings device.now record)
    (.ok (), held.emit (.tokenStored record.expiry))

end Device

/-! ## Claimants -/

namespace Claimant

inductive Stage where
  | waiting
  | posted (effort : Claim.Effort)
  | resting (effort : Claim.Effort)
  | holding (grant : Claim.Grant) (ids : String × String)
  | scheduling
  | confirming
  | ended (result : Except Abort Unit)
  | dropped

def Stage.isUnderWay : Stage → Bool
  | .posted _ => true
  | .resting _ => true
  | .holding _ _ => true
  | .scheduling => true
  | .confirming => true
  | _ => false

inductive Piece where
  | take
  | judge (outcome : Claim.Outcome)
  | wake
  | hold
  | schedule
  | confirm
  | drop

end Claimant

structure Claimant where
  code : String
  client : Client
  stage : Claimant.Stage
  outcome : Option Claim.Outcome := none
  held : Option (Claim.Grant × UInt32) := none

def Claimant.hasSucceeded (claimant : Claimant) : Bool :=
  match claimant.stage with
  | .ended (.ok ()) => true
  | _ => false

structure Post where
  claimant : Nat
  url : String
  body : String
deriving DecidableEq, Repr

structure Claimants (σ : Type) where
  activity : Activity σ
  members : Nat → Option Claimant := fun _ => none
  nextMember : Nat := 0
  lock : Option Nat := none
  /-- Everybody who got the claim lock, in this order. -/
  turns : List Nat := []
  posts : List Post := []

namespace Claimants

open Claimant (Piece)

inductive Move (σ : Type) where
  | other (move : DeviceAuth.Move σ)
  | clock (now : UInt32)
  | chance (random : Octets)
  | begin (code : String) (client : Client)
  | go (id : Nat) (piece : Piece)

variable {σ : Type}

def start (activity : Activity σ) : Claimants σ := { activity := activity }

def device (claimants : Claimants σ) : Device σ := claimants.activity.device

def postsOf (id : Nat) (claimants : Claimants σ) : List Post :=
  claimants.posts.filter (·.claimant == id)

def hasSucceeded (id : Nat) (claimants : Claimants σ) : Bool :=
  (claimants.members id).any Claimant.hasSucceeded

def setDevice (device : Device σ) (claimants : Claimants σ) : Claimants σ :=
  { claimants with activity := { claimants.activity with device := device } }

def setMember (id : Nat) (claimant : Claimant) (claimants : Claimants σ) : Claimants σ :=
  { claimants with
    members := fun other => if other = id then some claimant else claimants.members other }

def setStage (id : Nat) (claimant : Claimant) (stage : Claimant.Stage) (claimants : Claimants σ) :
    Claimants σ :=
  claimants.setMember id { claimant with stage := stage }

def leave (id : Nat) (claimant : Claimant) (stage : Claimant.Stage) (claimants : Claimants σ) :
    Claimants σ :=
  { claimants.setStage id claimant stage with lock := none }

def leaveWith (id : Nat) (claimant : Claimant) (answer : Except Abort Unit × Device σ)
    (claimants : Claimants σ) : Claimants σ :=
  (claimants.setDevice answer.2).leave id claimant (.ended answer.1)

variable [Backend σ]

def begin (code : String) (client : Client) (claimants : Claimants σ) : Claimants σ :=
  let stage : Claimant.Stage :=
    match claimants.device.admitClaim code with
    | .ok () => .waiting
    | .error failure => .ended (.error failure)
  { claimants.setMember claimants.nextMember ⟨code, client, stage, none, none⟩ with
    nextMember := claimants.nextMember + 1 }

def post (id : Nat) (claimant : Claimant) (effort : Claim.Effort) (claimants : Claimants σ) :
    Claimants σ :=
  match claimant.client.work (Device.prepareRequest effort.childId) claimants.device with
  | (.error failure, device) =>
      claimants.leaveWith id claimant (device.closeClaim (.error failure))
  | (.ok request, device) =>
      { (claimants.setDevice device).setStage id claimant (.posted effort) with
        posts := claimants.posts ++ [⟨id, claimant.client.settings.claimUrl, request.text⟩] }

def take (id : Nat) (claimant : Claimant) (claimants : Claimants σ) : Claimants σ :=
  let locked := { claimants with lock := some id, turns := claimants.turns ++ [id] }
  match claimant.client.work (Device.openClaim claimant.code) claimants.device with
  | (.error failure, device) => locked.leaveWith id claimant (.error failure, device)
  | (.ok effort, device) => (locked.setDevice device).post id claimant effort

def keepGrant (id : Nat) (claimant : Claimant) (grant : Claim.Grant)
    (claimants : Claimants σ) : Claimants σ :=
  let (_, kept) := claimant.client.work (Device.keepGrant grant) claimants.device
  match kept.beginHold grant.accessToken with
  | (.error failure, device) => claimants.leaveWith id claimant (.error failure, device)
  | (.ok ids, device) => (claimants.setDevice device).setStage id claimant (.holding grant ids)

def judge (id : Nat) (claimant : Claimant) (outcome : Claim.Outcome) (effort : Claim.Effort)
    (claimants : Claimants σ) : Claimants σ :=
  let answered := { claimant with outcome := some outcome }
  match claimants.device.judge outcome.grant effort with
  | (.rest _, effort, device) =>
      (claimants.setDevice device).setStage id answered (.resting effort)
  | (.finish (.ok grant), _, device) =>
      (claimants.setDevice device).keepGrant id answered grant
  | (.finish (.error abort), _, device) =>
      claimants.leaveWith id answered (device.closeClaim (.error abort))

def hold (id : Nat) (claimant : Claimant) (grant : Claim.Grant) (ids : String × String)
    (claimants : Claimants σ) : Claimants σ :=
  match claimants.device.endHold grant.accessToken grant.lifetime ids with
  | (.error failure, device) => claimants.leaveWith id claimant (.error failure, device)
  | (.ok (), device) =>
      (claimants.setDevice device).setStage id
        { claimant with held := some (grant, claimants.device.now) } .scheduling

omit [Backend σ] in
def schedule (id : Nat) (claimant : Claimant) (claimants : Claimants σ) : Claimants σ :=
  match claimants.device.schedule with
  | (.error panic, device) => claimants.leaveWith id claimant (.error panic, device)
  | (.ok _, device) => (claimants.setDevice device).setStage id claimant .confirming

/-- Do the next piece of a claim. One that does not come next changes nothing. -/
def go (id : Nat) (piece : Piece) (claimant : Claimant) (claimants : Claimants σ) :
    Claimants σ :=
  match piece, claimant.stage with
  | .take, .waiting =>
      if claimants.lock = none then claimants.take id claimant else claimants
  | .judge outcome, .posted effort => claimants.judge id claimant outcome effort
  | .wake, .resting effort => claimants.post id claimant effort
  | .hold, .holding grant ids => claimants.hold id claimant grant ids
  | .schedule, .scheduling => claimants.schedule id claimant
  | .confirm, .confirming =>
      claimants.leaveWith id claimant (.ok (), claimants.device.confirmClaim)
  | .drop, .waiting => claimants.setStage id claimant .dropped
  | .drop, stage =>
      if stage.isUnderWay then claimants.leave id claimant .dropped else claimants
  | _, _ => claimants

theorem go_confirm {claimant : Claimant} (comes : claimant.stage = .confirming) (id : Nat)
    (claimants : Claimants σ) : claimants.go id .confirm claimant =
      claimants.leaveWith id claimant (.ok (), claimants.device.confirmClaim) := by
  simp only [go, comes]

def step (move : Move σ) (claimants : Claimants σ) : Claimants σ :=
  match move with
  | .other move => { claimants with activity := claimants.activity.step move }
  | .clock now => claimants.setDevice { claimants.device with now := now }
  | .chance random => claimants.setDevice { claimants.device with random := random }
  | .begin code client => claimants.begin code client
  | .go id piece =>
      match claimants.members id with
      | some claimant => claimants.go id piece claimant
      | none => claimants

def run : List (Move σ) → Claimants σ → Claimants σ
  | [], claimants => claimants
  | move :: rest, claimants => run rest (claimants.step move)

end Claimants

end DeviceAuth
