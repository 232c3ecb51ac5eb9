import DeviceAuth.Claimants
import DeviceAuth.Proofs.Device.Claim

/-! What a piece of a claim does. Whichever piece it is, one claimant comes to another
stage, the device changes, perhaps something is posted, and the claim lock is kept or given
back. The ways in which this happens are listed here once. -/

namespace DeviceAuth

namespace Device

variable {σ : Type} [Backend σ] {before middle after : Device σ}

def Uses (before after : Device σ) : Prop :=
  ∃ (α : Type) (program : Program α), after.store = (program.run before.store).2

namespace Uses

theorem of_run {α : Type} (program : Program α)
    (store : after.store = (program.run before.store).2) : Uses before after :=
  ⟨α, program, store⟩

theorem of_perform {α : Type} (action : Action α)
    (store : after.store = (action.perform before.store).2) : Uses before after :=
  of_run action.run store

theorem of_same (store : after.store = before.store) : Uses before after :=
  of_run (.done ()) store

theorem trans (first : Uses before middle) (second : Uses middle after) :
    Uses before after := by
  obtain ⟨_, earlier, ran⟩ := first
  obtain ⟨_, later, last⟩ := second
  apply of_run (earlier >>= fun _ => later)
  rw [last, ran, Program.run_bind]

end Uses

theorem UsesCredentials.uses (uses : UsesCredentials before after) : Uses before after := by
  obtain ⟨α, program, _, store⟩ := uses.store
  exact ⟨α, program, store⟩

theorem uses_openClaim (code : String) (device : Device σ) :
    Uses device (device.openClaim code).2 :=
  (usesCredentials_openClaim code device).uses

theorem uses_prepareRequest (childId : String) (device : Device σ) :
    Uses device (device.prepareRequest childId).2 :=
  (usesCredentials_prepareRequest childId device).uses

omit [Backend σ] in
theorem judge_store (result : Except Failure Claim.Grant) (effort : Claim.Effort)
    (device : Device σ) : (device.judge result effort).2.2.store = device.store ∧
      (device.judge result effort).2.2.address = device.address := ⟨rfl, rfl⟩

omit [Backend σ] in
theorem judge_finish_ok {result : Except Failure Claim.Grant} {effort next : Claim.Effort}
    {grant : Claim.Grant} {device after : Device σ}
    (judged : device.judge result effort = (.finish (.ok grant), next, after)) :
    result = .ok grant := by
  unfold judge Claim.Effort.judge at judged
  cases result with
  | ok given => simpa using congrArg Prod.fst judged
  | error failure =>
      have verdict := congrArg Prod.fst judged
      dsimp only at verdict
      split at verdict
      · split at verdict
        · cases verdict
        · cases verdict
      · cases verdict

theorem closeClaim_error (abort : Abort) (device : Device σ) :
    (device.closeClaim (.error abort)).1 = .error abort ∧
      (device.closeClaim (.error abort)).2.store = device.store := by
  rcases abort with failure | panic
  · cases failure with
    | refused status message => exact ⟨rfl, rfl⟩
    | _ => exact ⟨rfl, rfl⟩
  · exact ⟨rfl, rfl⟩

end Device

theorem Client.uses_work {σ α : Type} [Backend σ] {change : Device σ → α × Device σ}
    (uses : ∀ device : Device σ, device.Uses (change device).2) (client : Client)
    (device : Device σ) : device.Uses (client.work change device).2 :=
  uses { device with settings := client.settings, address := client.address }

namespace Claimant

variable {σ : Type} [Backend σ]

def IsGranted (grant : Claim.Grant) (claimant : Claimant) : Prop :=
  ∃ outcome, claimant.outcome = some outcome ∧ outcome.grant = .ok grant

/-- The ways in which a claim that is under way goes on: what becomes of the claimant and of
the device, and what is posted. -/
inductive Advances (id : Nat) (claimant : Claimant) (device : Device σ) :
    Claimant → Device σ → List Post → Prop where
  | fail (outcome : Option Claim.Outcome) (abort : Abort) {after : Device σ}
      (uses : device.Uses after) :
      Advances id claimant device
        { claimant with outcome := outcome, stage := .ended (.error abort) } after []
  | post (effort : Claim.Effort) (request : Claim.Request) {after : Device σ}
      (uses : device.Uses after) :
      Advances id claimant device { claimant with stage := .posted effort } after
        [⟨id, claimant.client.settings.claimUrl, request.text⟩]
  | rest {sent : Claim.Effort} (comes : claimant.stage = .posted sent)
      (outcome : Claim.Outcome) (effort : Claim.Effort) {after : Device σ}
      (uses : device.Uses after) :
      Advances id claimant device
        { claimant with outcome := some outcome, stage := .resting effort } after []
  | keep {sent : Claim.Effort} (comes : claimant.stage = .posted sent) {outcome : Claim.Outcome}
      {grant : Claim.Grant} (means : outcome.grant = .ok grant)
      (given : grant.accessToken.isEmpty = false) (ids : String × String) {after : Device σ}
      (store : after.store = ((Device.tokenIds device.address).run
        ((grant.keep claimant.client.settings).perform device.store).2).2) :
      Advances id claimant device
        { claimant with outcome := some outcome, stage := .holding grant ids } after []
  | hold {grant : Claim.Grant} {ids : String × String} (comes : claimant.stage = .holding grant ids)
      {record : TokenRecord} (token : record.token = grant.accessToken)
      (expiry : record.expiry = expiryAfter device.now grant.lifetime) :
      Advances id claimant device
        { claimant with held := some (grant, device.now), stage := .scheduling }
        { device with
          store := ((Credentials.saveRecord record).perform device.store).2
          keeper := (device.keeper.replace device.settings device.now record).emit
            (.tokenStored record.expiry) } []
  | schedule (comes : claimant.stage = .scheduling) :
      Advances id claimant device { claimant with stage := .confirming } device.schedule.2 []
  | confirm (comes : claimant.stage = .confirming) :
      Advances id claimant device { claimant with stage := .ended (.ok ()) }
        device.confirmClaim []
  | drop : Advances id claimant device { claimant with stage := .dropped } device []

namespace Advances

variable {id : Nat} {claimant next : Claimant} {device after : Device σ} {posts : List Post}

theorem begun (advances : Advances id claimant device next after posts) :
    next.stage ≠ .waiting := by
  cases advances with
  | fail => nofun
  | post => nofun
  | rest => nofun
  | keep => nofun
  | hold => nofun
  | schedule => nofun
  | confirm => nofun
  | drop => nofun

theorem own (advances : Advances id claimant device next after posts) :
    ∀ post ∈ posts, post.claimant = id := by
  cases advances with
  | post effort request uses =>
      intro post member
      rw [List.mem_singleton.mp member]
  | _ => nofun

end Advances

end Claimant

namespace Claimants

open Claimant (Advances Piece)

variable {σ : Type} {claimants : Claimants σ} {id : Nat} {claimant : Claimant}

def advance (id : Nat) (next : Claimant) (device : Device σ) (posts : List Post)
    (claimants : Claimants σ) : Claimants σ :=
  { (claimants.setDevice device).setMember id next with
    lock := if next.stage.isUnderWay then some id else none
    posts := claimants.posts ++ posts }

variable [Backend σ]

def Advanced (id : Nat) (claimant : Claimant) (device : Device σ)
    (before after : Claimants σ) : Prop :=
  ∃ next changed posts, Advances id claimant device next changed posts ∧
    after = before.advance id next changed posts

omit [Backend σ] in
theorem leaveWith_eq (id : Nat) (claimant : Claimant) (answer : Except Abort Unit × Device σ)
    (claimants : Claimants σ) : claimants.leaveWith id claimant answer =
      claimants.advance id { claimant with stage := .ended answer.1 } answer.2 [] := by
  simp [leaveWith, leave, advance, setStage, setMember, setDevice, Claimant.Stage.isUnderWay]

omit [Backend σ] in
theorem setStage_eq (locked : claimants.lock = some id) {stage : Claimant.Stage}
    (underWay : stage.isUnderWay = true) (claimant : Claimant) (device : Device σ) :
    (claimants.setDevice device).setStage id claimant stage =
      claimants.advance id { claimant with stage := stage } device [] := by
  simp [advance, setStage, setMember, setDevice, underWay, locked]

theorem advanced_post (locked : claimants.lock = some id) (claimant : Claimant)
    (effort : Claim.Effort) {device : Device σ} (uses : device.Uses claimants.device) :
    Advanced id claimant device claimants (claimants.post id claimant effort) := by
  have prepared := uses.trans (claimant.client.uses_work
    (Device.uses_prepareRequest effort.childId) claimants.device)
  unfold post
  split
  next failure after performed =>
    rw [performed] at prepared
    have ended := Device.closeClaim_error failure after
    rw [leaveWith_eq, ended.1]
    exact ⟨_, _, _, .fail claimant.outcome failure (prepared.trans (.of_same ended.2)), rfl⟩
  next request after performed =>
    rw [performed] at prepared
    refine ⟨_, _, _, .post effort request prepared, ?_⟩
    simp [advance, setStage, setMember, setDevice, Claimant.Stage.isUnderWay, locked]

theorem advanced_take (id : Nat) (claimant : Claimant) (claimants : Claimants σ) :
    Advanced id claimant claimants.device
      { claimants with lock := some id, turns := claimants.turns ++ [id] }
      (claimants.take id claimant) := by
  have opened := claimant.client.uses_work (Device.uses_openClaim claimant.code) claimants.device
  unfold take
  dsimp only
  split
  next failure after performed =>
    rw [performed] at opened
    exact ⟨_, _, _, .fail claimant.outcome failure opened, leaveWith_eq id claimant _ _⟩
  next effort after performed =>
    rw [performed] at opened
    let locked := ({ claimants with
      lock := some id, turns := claimants.turns ++ [id] }).setDevice after
    have posted : Advanced id claimant claimants.device locked (locked.post id claimant effort) :=
      advanced_post rfl claimant effort opened
    exact posted

theorem advanced_keepGrant (locked : claimants.lock = some id) {sent : Claim.Effort}
    (comes : claimant.stage = .posted sent) {outcome : Claim.Outcome} {grant : Claim.Grant}
    (means : outcome.grant = .ok grant) {device : Device σ}
    (store : claimants.device.store = device.store)
    (address : claimants.device.address = device.address) :
    Advanced id claimant device claimants
      (claimants.keepGrant id { claimant with outcome := some outcome } grant) := by
  obtain ⟨kept, work⟩ : ∃ kept,
      (claimant.client.work (Device.keepGrant grant) claimants.device).2 = kept := ⟨_, rfl⟩
  have keptStore : kept.store =
      ((grant.keep claimant.client.settings).perform device.store).2 := by
    rw [← work, ← store]
    rfl
  have keptAddress : kept.address = device.address := by
    rw [← work, ← address]
    rfl
  unfold keepGrant
  cases given : grant.accessToken.isEmpty with
  | true =>
      have refused : kept.beginHold grant.accessToken =
          (.error (.state "refusing to store an empty token"), kept) := if_pos given
      simp only [work, refused]
      exact ⟨_, _, _, .fail (some outcome) _ (.of_perform _ keptStore), leaveWith_eq id _ _ _⟩
  | false =>
      have begun : kept.beginHold grant.accessToken =
          (.ok (kept.run (Device.tokenIds kept.address)).1,
            (kept.run (Device.tokenIds kept.address)).2) := by
        rw [Device.beginHold, if_neg (by simp [given])]
      simp only [work, begun]
      refine ⟨_, _, _, .keep comes means given _ ?_, setStage_eq locked rfl _ _⟩
      rw [← keptStore, ← keptAddress]
      rfl

theorem advanced_judge (locked : claimants.lock = some id) {effort : Claim.Effort}
    (comes : claimant.stage = .posted effort) (outcome : Claim.Outcome) :
    Advanced id claimant claimants.device claimants
      (claimants.judge id claimant outcome effort) := by
  have same := Device.judge_store outcome.grant effort claimants.device
  unfold judge
  dsimp only
  split
  next delay next after judged =>
    rw [judged] at same
    exact ⟨_, _, _, .rest comes outcome next (.of_same same.1), setStage_eq locked rfl _ _⟩
  next grant next after judged =>
    rw [judged] at same
    have means : outcome.grant = .ok grant := Device.judge_finish_ok judged
    have kept : (claimants.setDevice after).lock = some id := locked
    exact advanced_keepGrant kept comes means same.1 same.2
  next failure next after judged =>
    rw [judged] at same
    have ended := Device.closeClaim_error failure after
    rw [leaveWith_eq, ended.1]
    exact ⟨_, _, _, .fail (some outcome) failure (.of_same (ended.2.trans same.1)), rfl⟩

theorem advanced_hold (locked : claimants.lock = some id) {grant : Claim.Grant}
    {ids : String × String} (comes : claimant.stage = .holding grant ids) :
    Advanced id claimant claimants.device claimants
      (claimants.hold id claimant grant ids) := by
  unfold hold
  by_cases uninitialized : claimants.device.keeper.phase = .uninitialized
  · rw [Device.endHold, if_pos uninitialized]
    exact ⟨_, _, _, .fail claimant.outcome _ (.of_same rfl), leaveWith_eq id claimant _ _⟩
  · rw [Device.endHold, if_neg uninitialized]
    exact ⟨_, _, _, .hold comes rfl rfl, setStage_eq locked rfl _ _⟩

theorem advanced_schedule (locked : claimants.lock = some id)
    (comes : claimant.stage = .scheduling) :
    Advanced id claimant claimants.device claimants (claimants.schedule id claimant) := by
  unfold schedule
  split
  next failure after performed =>
    have same : after.store = claimants.device.store := by
      rw [← show claimants.device.schedule.2 = after from congrArg Prod.snd performed]
      rfl
    exact ⟨_, _, _, .fail claimant.outcome failure (.of_same same), leaveWith_eq id claimant _ _⟩
  next result after performed =>
    obtain rfl : claimants.device.schedule.2 = after := congrArg Prod.snd performed
    exact ⟨_, _, _, .schedule comes, setStage_eq locked rfl _ _⟩

theorem advanced_go (locked : claimants.lock = some id) (piece : Piece)
    (underWay : claimant.stage.isUnderWay = true) :
    claimants.go id piece claimant = claimants ∨
      Advanced id claimant claimants.device claimants (claimants.go id piece claimant) := by
  unfold go
  split
  next waits => simp [waits, Claimant.Stage.isUnderWay] at underWay
  next outcome effort comes => exact .inr (advanced_judge locked comes outcome)
  next effort comes => exact .inr (advanced_post locked claimant effort (.of_same rfl))
  next grant ids comes => exact .inr (advanced_hold locked comes)
  next comes => exact .inr (advanced_schedule locked comes)
  next comes => exact .inr ⟨_, _, _, .confirm comes, leaveWith_eq id claimant _ _⟩
  next waits => simp [waits, Claimant.Stage.isUnderWay] at underWay
  next =>
    rw [if_pos underWay]
    refine .inr ⟨_, _, _, .drop, ?_⟩
    simp [advance, leave, setStage, setMember, setDevice, Claimant.Stage.isUnderWay, device]
  next => exact .inl rfl

inductive Goes (before : Claimants σ) (id : Nat) (claimant : Claimant) : Claimants σ → Prop where
  | same : Goes before id claimant before
  | take (free : before.lock = none) (waits : claimant.stage = .waiting) {after : Claimants σ}
      (advanced : Advanced id claimant before.device
        { before with lock := some id, turns := before.turns ++ [id] } after) :
      Goes before id claimant after
  | goOn (underWay : claimant.stage.isUnderWay = true) {after : Claimants σ}
      (advanced : Advanced id claimant before.device before after) : Goes before id claimant after
  | drop (waits : claimant.stage = .waiting) :
      Goes before id claimant (before.setStage id claimant .dropped)

theorem goes_go (locked : claimant.stage.isUnderWay = true → claimants.lock = some id)
    (piece : Piece) : claimants.Goes id claimant (claimants.go id piece claimant) := by
  by_cases underWay : claimant.stage.isUnderWay = true
  · rcases advanced_go (locked underWay) piece underWay with same | advanced
    · rw [same]
      exact .same
    · exact .goOn underWay advanced
  · unfold go
    split
    next waits =>
      split
      next free => exact .take free waits (advanced_take id claimant claimants)
      next => exact .same
    next comes => exact absurd (by rw [comes]; rfl) underWay
    next comes => exact absurd (by rw [comes]; rfl) underWay
    next comes => exact absurd (by rw [comes]; rfl) underWay
    next comes => exact absurd (by rw [comes]; rfl) underWay
    next comes => exact absurd (by rw [comes]; rfl) underWay
    next waits => exact .drop waits
    next =>
      rw [if_neg underWay]
      exact .same
    next => exact .same

end Claimants

end DeviceAuth
