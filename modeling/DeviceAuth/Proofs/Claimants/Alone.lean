import DeviceAuth.Proofs.Claimants.Pieces
import DeviceAuth.Proofs.Device.Claim

/-! A claimant that nobody disturbs. With the settings of the device, its pieces one after
the other are the claim as a whole: it ends as the claim ends, and leaves the device as the
claim leaves it. -/

namespace DeviceAuth

theorem Device.holdToken_eq {σ : Type} [Backend σ] (token : String) (lifetime : UInt32)
    (device : Device σ) : device.holdToken token lifetime =
      match device.beginHold token with
      | (.error failure, device) => (.error failure, device)
      | (.ok ids, device) => device.endHold token lifetime ids := by
  unfold holdToken beginHold
  split
  next => rfl
  next => rfl

def Device.endClaim {σ : Type} (device : Device σ) : Except Abort Unit × Device σ :=
  match device.schedule with
  | (.error panic, device) => (.error panic, device)
  | (.ok _, device) => (.ok (), device.confirmClaim)

theorem Device.holdGrant_eq {σ : Type} [Backend σ] (grant : Claim.Grant) (device : Device σ) :
    device.holdGrant grant =
      match (device.keepGrant grant).2.beginHold grant.accessToken with
      | (.error failure, device) => (.error failure, device)
      | (.ok ids, device) =>
          match device.endHold grant.accessToken grant.lifetime ids with
          | (.error failure, device) => (.error failure, device)
          | (.ok (), device) => device.endClaim := by
  unfold holdGrant storeToken
  rcases device.keepGrant grant with ⟨result, kept⟩
  dsimp only
  rw [holdToken_eq]
  rcases kept.beginHold grant.accessToken with ⟨failure | ids, begun⟩
  · rfl
  · dsimp only
    rcases begun.endHold grant.accessToken grant.lifetime ids with ⟨failure | _, held⟩
    · rfl
    · rcases scheduled : held.schedule with ⟨panic | _, after⟩
      · simp only [endClaim, scheduled]
      · simp only [endClaim, scheduled]

def Device.ownClient {σ : Type} (device : Device σ) : Client := ⟨device.settings, device.address⟩

theorem Device.ownClient_openClaim {σ : Type} [Backend σ] (code : String) (device : Device σ) :
    (device.openClaim code).2.ownClient = device.ownClient := by
  unfold openClaim
  dsimp only
  split
  all_goals
    next performed =>
      rw [← show _ = _ from congrArg Prod.snd performed]
      rfl

theorem Client.work_own {σ α : Type} {change : Device σ → α × Device σ} {device : Device σ}
    (kept : (change device).2.ownClient = device.ownClient) :
    device.ownClient.work change device = change device := by
  have same : device.ownClient.work change device =
      ((change device).1, { (change device).2 with
        settings := device.ownClient.settings, address := device.ownClient.address }) := rfl
  rw [same, ← kept]
  rfl

namespace Claimants

variable {σ : Type} [Backend σ] {claimants : Claimants σ} {id : Nat} {claimant : Claimant}

def StandsAt (id : Nat) (claimants : Claimants σ) (answer : Option (Except Abort Unit)) : Prop :=
  ∃ claimant, claimants.members id = some claimant ∧
    match answer with
    | some result => claimant.stage = .ended result
    | none => ∃ effort, claimant.stage = .posted effort

def Reaches (id : Nat) (answer : Option (Except Abort Unit) × Device σ)
    (claimants : Claimants σ) : Prop :=
  ∃ moves, (claimants.run moves).device = answer.2 ∧ StandsAt id (claimants.run moves) answer.1

variable {answer : Option (Except Abort Unit) × Device σ}

theorem Reaches.after (move : Move σ) (reaches : Reaches id answer (claimants.step move)) :
    Reaches id answer claimants := by
  obtain ⟨moves, device, stands⟩ := reaches
  exact ⟨move :: moves, device, stands⟩

omit [Backend σ] in
theorem member_setStage (id : Nat) (claimant : Claimant) (stage : Claimant.Stage)
    (claimants : Claimants σ) :
    (claimants.setStage id claimant stage).members id = some { claimant with stage := stage } :=
  if_pos rfl

theorem reaches_leaveWith (ended : Except Abort Unit × Device σ) :
    Reaches id (some ended.1, ended.2) (claimants.leaveWith id claimant ended) :=
  ⟨[], rfl, _, member_setStage id claimant (.ended ended.1) (claimants.setDevice ended.2), rfl⟩

theorem step_go (member : claimants.members id = some claimant) (piece : Claimant.Piece) :
    claimants.step (.go id piece) = claimants.go id piece claimant := by
  simp only [step, member]

/-! ## One stage after the other -/

theorem reaches_confirming (member : claimants.members id = some claimant)
    (comes : claimant.stage = .confirming) :
    Reaches id (some (.ok ()), claimants.device.confirmClaim) claimants := by
  apply Reaches.after (.go id .confirm)
  rw [step_go member, go_confirm comes]
  exact reaches_leaveWith (.ok (), claimants.device.confirmClaim)

theorem reaches_scheduling (member : claimants.members id = some claimant)
    (comes : claimant.stage = .scheduling) :
    Reaches id (some claimants.device.endClaim.1, claimants.device.endClaim.2) claimants := by
  apply Reaches.after (.go id .schedule)
  have next : claimants.go id .schedule claimant = claimants.schedule id claimant := by
    simp only [go, comes]
  rw [step_go member, next]
  unfold schedule Device.endClaim
  rcases claimants.device.schedule with ⟨panic | _, scheduled⟩
  · exact reaches_leaveWith (.error (.panic panic), scheduled)
  · exact reaches_confirming (member_setStage id claimant .confirming _) rfl

theorem reaches_holding {grant : Claim.Grant} {ids : String × String}
    (member : claimants.members id = some claimant) (comes : claimant.stage = .holding grant ids)
    {answer : Except Abort Unit × Device σ}
    (equal : answer = match claimants.device.endHold grant.accessToken grant.lifetime ids with
      | (.error failure, device) => (.error failure, device)
      | (.ok (), device) => device.endClaim) :
    Reaches id (some answer.1, answer.2) claimants := by
  apply Reaches.after (.go id .hold)
  have next : claimants.go id .hold claimant = claimants.hold id claimant grant ids := by
    simp only [go, comes]
  rw [step_go member, next, equal]
  unfold hold
  rcases claimants.device.endHold grant.accessToken grant.lifetime ids with
    ⟨failure | _, held⟩
  · exact reaches_leaveWith (.error (.failure failure), held)
  · exact reaches_scheduling (member_setStage id _ .scheduling (claimants.setDevice held)) rfl

theorem reaches_keepGrant (own : claimant.client = claimants.device.ownClient)
    (grant : Claim.Grant) :
    Reaches id (some (claimants.device.holdGrant grant).1, (claimants.device.holdGrant grant).2)
      (claimants.keepGrant id claimant grant) := by
  have kept : claimant.client.work (Device.keepGrant grant) claimants.device =
      claimants.device.keepGrant grant := by
    rw [own]
    rfl
  rw [keepGrant, kept, Device.holdGrant_eq]
  rcases claimants.device.keepGrant grant with ⟨result, device⟩
  dsimp only
  rcases device.beginHold grant.accessToken with ⟨failure | ids, begun⟩
  · exact reaches_leaveWith (.error (.failure failure), begun)
  · exact reaches_holding (member_setStage id claimant _ (claimants.setDevice begun)) rfl rfl

/-! ## The claim as a whole -/

def GoesOn (id : Nat) (replies : List Claim.Reply) (σ : Type) [Backend σ] : Prop :=
  ∀ {claimants : Claimants σ} {claimant : Claimant} {effort : Claim.Effort},
    claimants.members id = some claimant → claimant.stage = .posted effort →
    claimant.client = claimants.device.ownClient →
    Reaches id (Device.closeAttempts (claimants.device.awaitReplies replies effort)) claimants

theorem reaches_post {replies : List Claim.Reply} (goesOn : GoesOn id replies σ)
    (own : claimant.client = claimants.device.ownClient) (effort : Claim.Effort) :
    Reaches id (Device.closeAttempts (claimants.device.attemptClaim replies effort))
      (claimants.post id claimant effort) := by
  have prepared : claimant.client.work (Device.prepareRequest effort.childId) claimants.device =
      claimants.device.prepareRequest effort.childId := by
    rw [own]
    rfl
  have settings : (claimants.device.prepareRequest effort.childId).2.ownClient =
      claimants.device.ownClient := rfl
  unfold post
  rw [prepared]
  rcases performed : claimants.device.prepareRequest effort.childId with ⟨failure | request, device⟩
  · rw [Device.attemptClaim_of_error performed]
    exact reaches_leaveWith (device.closeClaim (.error (.failure failure)))
  · rw [Device.attemptClaim_of_ok performed]
    rw [performed] at settings
    exact goesOn (member_setStage id claimant _ (claimants.setDevice device)) rfl
      (own.trans settings.symm)

theorem goesOn (id : Nat) (replies : List Claim.Reply) : GoesOn id replies σ := by
  -- On the replies to come: one that is not final brings the claimant back to where it waits.
  induction replies with
  | nil =>
      intro claimants claimant effort member comes own
      exact ⟨[], rfl, claimant, member, effort, comes⟩
  | cons reply rest induction =>
      intro claimants claimant effort member comes own
      apply Reaches.after (.clock reply.now)
      apply Reaches.after (.go id (.judge reply.outcome))
      let clocked := claimants.setDevice { claimants.device with now := reply.now }
      let answered : Claimant := { claimant with outcome := some reply.outcome }
      have judges : clocked.step (.go id (.judge reply.outcome)) =
          clocked.judge id claimant reply.outcome effort := by
        have present : clocked.members id = some claimant := member
        rw [step_go present]
        simp only [go, comes]
      show Reaches id _ (clocked.step (.go id (.judge reply.outcome)))
      rw [judges]
      unfold judge
      have kept : (clocked.device.judge reply.outcome.grant effort).2.2.ownClient =
          claimants.device.ownClient := rfl
      rcases judged : clocked.device.judge reply.outcome.grant effort with
        ⟨_ | (abort | grant), left, device⟩
      all_goals
        rw [judged] at kept
        have stillOwn : answered.client = (clocked.setDevice device).device.ownClient :=
          own.trans kept.symm
      · rw [Device.awaitReplies_of_rest reply judged]
        let resting := (clocked.setDevice device).setStage id answered (.resting left)
        have wakes : resting.step (.go id .wake) =
            resting.post id { answered with stage := .resting left } left :=
          step_go (member_setStage id answered (.resting left) _) .wake
        apply Reaches.after (.go id .wake)
        show Reaches id _ (resting.step (.go id .wake))
        rw [wakes]
        have ownResting : ({ answered with stage := .resting left } : Claimant).client =
            resting.device.ownClient := stillOwn
        exact reaches_post induction ownResting left
      · rw [Device.awaitReplies_of_finish reply judged]
        exact reaches_leaveWith (device.closeClaim (.error abort))
      · rw [Device.awaitReplies_of_finish reply judged]
        exact reaches_keepGrant stillOwn grant

theorem reaches_take (own : claimant.client = claimants.device.ownClient)
    (replies : List Claim.Reply) :
    Reaches id (claimants.device.claimInTurn claimant.code replies)
      (claimants.take id claimant) := by
  have kept := claimants.device.ownClient_openClaim claimant.code
  have opened : claimant.client.work (Device.openClaim claimant.code) claimants.device =
      claimants.device.openClaim claimant.code := by
    rw [own, Client.work_own kept]
  let locked := { claimants with lock := some id, turns := claimants.turns ++ [id] }
  unfold take Device.claimInTurn
  rw [opened]
  rcases performed : claimants.device.openClaim claimant.code with ⟨failure | effort, device⟩
  · exact reaches_leaveWith (.error (.failure failure), device)
  · rw [performed] at kept
    have stillOwn : claimant.client = (locked.setDevice device).device.ownClient :=
      own.trans kept.symm
    exact reaches_post (goesOn id replies) stillOwn effort

/-- A caller that nobody disturbs authenticates the device. -/
theorem reaches_authenticate (free : claimants.lock = none) (code : String)
    (replies : List Claim.Reply) :
    Reaches claimants.nextMember (claimants.device.authenticate code replies) claimants := by
  apply Reaches.after (.begin code claimants.device.ownClient)
  show Reaches _ _ (claimants.begin code claimants.device.ownClient)
  unfold Device.authenticate begin
  cases admitted : claimants.device.admitClaim code with
  | error failure => exact ⟨[], rfl, _, if_pos rfl, rfl⟩
  | ok =>
      let caller : Claimant := ⟨code, claimants.device.ownClient, .waiting, none, none⟩
      let joined : Claimants σ := { claimants.setMember claimants.nextMember caller with
        nextMember := claimants.nextMember + 1 }
      have taken : joined.step (.go claimants.nextMember .take) =
          joined.take claimants.nextMember caller := by
        have member : joined.members claimants.nextMember = some caller := if_pos rfl
        have next : joined.go claimants.nextMember .take caller =
            if joined.lock = none then joined.take claimants.nextMember caller else joined := rfl
        have unlocked : joined.lock = none := free
        rw [step_go member, next, if_pos unlocked]
      apply Reaches.after (.go claimants.nextMember .take)
      show Reaches _ _ (joined.step (.go claimants.nextMember .take))
      rw [taken]
      have own : caller.client = joined.device.ownClient := rfl
      exact reaches_take own replies

end Claimants

end DeviceAuth
