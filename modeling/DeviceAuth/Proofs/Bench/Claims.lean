import DeviceAuth.Bench.Call
import DeviceAuth.Proofs.Device.Claim

/-! Claims on the bench. A call that authenticates the device is carried out in pieces,
with whatever else happens in between. Each piece goes on with the claim as a whole: it
either ends as the claim ends, or what the call waits for afterwards is how the claim
goes on. So whatever holds of the claim as a whole holds of a call that nobody disturbs. -/

namespace DeviceAuth

namespace Bench

variable {id : Nat} {bench : Bench}

def Waiting.outlook (replies : List Claim.Reply) (device : Device Store) :
    Waiting → Option (Option (Except Abort Unit) × Device Store)
  | .turn code => some (device.claimInTurn code replies)
  | .outcome .authentication effort content =>
      some (Device.closeAttempts (device.awaitReplies (⟨content, device.now⟩ :: replies) effort))
  | .rest .authentication effort =>
      some (Device.closeAttempts (device.attemptClaim replies effort))
  | _ => none

/-- A call has ended as a claim ends, or waits for what the claim goes on with. The
replies that came meanwhile are the first ones of the claim. -/
def Follows (id : Nat) (claim : List Claim.Reply → Option (Except Abort Unit) × Device Store)
    (bench : Bench) : Prop :=
  ∃ replies,
    (∃ result, (id, .ended result) ∈ bench.results ∧
      ∀ later, claim (replies ++ later) = (some result, bench.device)) ∨
    ∃ waiting, bench.waiting? id = some waiting ∧
      ∀ later, waiting.outlook later bench.device = some (claim (replies ++ later))

theorem find?_others (id : Nat) (bench : Bench) :
    (bench.calls.filter fun call => call.1 ≠ id).find? (fun call => call.1 == id) = none := by
  rw [List.find?_eq_none]
  intro call member
  simpa using (List.mem_filter.mp member).2

theorem waiting?_await (id : Nat) (waiting : Waiting) (bench : Bench) :
    (bench.await id waiting).waiting? id = some waiting := by
  unfold await waiting?
  rw [List.find?_append, find?_others]
  simp

theorem device_sleepFor? {delay : Span} {sleeper : Sleeper} {asleep : Bench}
    (sleeps : bench.sleepFor? delay sleeper = some asleep) : asleep.device = bench.device := by
  unfold sleepFor? sleepUntil? at sleeps
  split at sleeps
  · cases sleeps
  · obtain rfl := Option.some.inj sleeps
    rfl

theorem awaitFor_cases (delay : Span) (id : Nat) (waiting : Waiting) (goOn : Bench → Bench)
    (bench : Bench) :
    (∃ asleep : Bench, asleep.device = bench.device ∧
        bench.awaitFor delay id waiting goOn = asleep.await id waiting) ∨
      bench.awaitFor delay id waiting goOn = goOn bench := by
  unfold awaitFor
  cases sleeps : bench.sleepFor? delay (.call id) with
  | none => exact .inr rfl
  | some asleep => exact .inl ⟨asleep, device_sleepFor? sleeps, rfl⟩

theorem mem_results_finish (id : Nat) (result : CallResult) (bench : Bench) :
    (id, result) ∈ (bench.finish id result).results := by
  simp [finish]

namespace Follows

variable {claim other : List Claim.Reply → Option (Except Abort Unit) × Device Store}

theorem waits {waiting : Waiting} {goOn : Bench → Bench} (delay : Span)
    (outlook : ∀ later, waiting.outlook later bench.device = some (claim later))
    (goesOn : Follows id claim (goOn bench)) :
    Follows id claim (bench.awaitFor delay id waiting goOn) := by
  rcases awaitFor_cases delay id waiting goOn bench with ⟨asleep, device, equal⟩ | equal
  · rw [equal]
    refine ⟨[], .inr ⟨waiting, waiting?_await id waiting asleep, ?_⟩⟩
    intro later
    show waiting.outlook later asleep.device = _
    rw [device]
    exact outlook later
  · rw [equal]
    exact goesOn

theorem ends (result : Except Abort Claim.Grant)
    (claimed : ∀ replies, claim replies = Device.closeAttempts (some result, bench.device)) :
    Follows id claim (bench.endEffort id .authentication result) := by
  refine ⟨[], .inl ⟨(bench.device.closeClaim result).1, ?_, claimed⟩⟩
  exact mem_results_finish id _ _

theorem after_reply {reply : Claim.Reply} (follows : Follows id other bench)
    (same : ∀ later, claim (reply :: later) = other later) : Follows id claim bench := by
  obtain ⟨replies, state⟩ := follows
  refine ⟨reply :: replies, state.imp ?_ ?_⟩
  · rintro ⟨result, ended, equal⟩
    exact ⟨result, ended, fun later => (same (replies ++ later)).trans (equal later)⟩
  · rintro ⟨waiting, found, outlook⟩
    refine ⟨waiting, found, fun later => ?_⟩
    exact (outlook later).trans (congrArg some (same (replies ++ later)).symm)

end Follows

/-! ## The pieces of a claim -/

theorem follows_takeOutcome {again : Claim.Effort → Bench → Bench} (outcome : Claim.Outcome)
    (effort : Claim.Effort) (bench : Bench)
    (goOn : ∀ (next : Claim.Effort) (later : Bench), next.retriesLeft < effort.retriesLeft →
      Follows id (fun replies => Device.closeAttempts (later.device.attemptClaim replies next))
        (again next later)) :
    Follows id
      (fun replies => Device.closeAttempts
        (bench.device.awaitReplies (⟨outcome, bench.device.now⟩ :: replies) effort))
      (bench.takeOutcome again id .authentication outcome effort) := by
  unfold takeOutcome
  rcases judged : bench.device.judge outcome.grant effort with ⟨delay | result, next, device⟩
  · have rested := Device.awaitReplies_of_rest ⟨outcome, bench.device.now⟩ judged
    simp only [rested]
    have fewer := Device.retriesLeft_of_rest judged
    exact .waits delay (fun _ => rfl) (goOn next { bench with device := device } fewer)
  · have finished := Device.awaitReplies_of_finish ⟨outcome, bench.device.now⟩ judged
    simp only [finished]
    exact .ends result fun _ => rfl

theorem follows_send {again : Claim.Effort → Bench → Bench} (request : Claim.Request)
    (effort : Claim.Effort)
    (goOn : ∀ (next : Claim.Effort) (later : Bench), next.retriesLeft < effort.retriesLeft →
      Follows id (fun replies => Device.closeAttempts (later.device.attemptClaim replies next))
        (again next later)) :
    Follows id (fun replies => Device.closeAttempts (bench.device.awaitReplies replies effort))
      (bench.send again id .authentication request effort) := by
  unfold send
  rcases nextLine lastOutcome bench.outcomes with ⟨reply, outcomes⟩
  apply Follows.after_reply
  · apply Follows.waits
    · intro later
      rfl
    · exact follows_takeOutcome reply.content effort _ goOn
  · intro later
    rfl

theorem follows_post {again : Claim.Effort → Bench → Bench} (effort : Claim.Effort)
    (goOn : ∀ (next : Claim.Effort) (later : Bench), next.retriesLeft < effort.retriesLeft →
      Follows id (fun replies => Device.closeAttempts (later.device.attemptClaim replies next))
        (again next later)) :
    Follows id (fun replies => Device.closeAttempts (bench.device.attemptClaim replies effort))
      (bench.post again id .authentication effort) := by
  unfold post
  rcases prepared : bench.device.prepareRequest effort.childId with ⟨failure | request, device⟩
  · simp only [Device.attemptClaim_of_error prepared]
    exact .ends (.error (.failure failure)) fun _ => rfl
  · simp only [Device.attemptClaim_of_ok prepared]
    exact follows_send request effort goOn

theorem follows_attempt {attempts : Nat} {effort : Claim.Effort}
    (enough : effort.retriesLeft < attempts) :
    Follows id
      (fun replies => Device.closeAttempts (bench.device.attemptClaim replies effort))
      (bench.attempt id .authentication attempts effort) := by
  induction attempts generalizing effort bench with
  | zero => omega
  | succ attempts induction =>
      apply follows_post
      intro next later fewer
      exact induction (by omega)

theorem follows_attemptAll (effort : Claim.Effort) (bench : Bench) :
    Follows id (fun replies => Device.closeAttempts (bench.device.attemptClaim replies effort))
      (bench.attemptAll id .authentication effort) :=
  follows_attempt (Nat.lt_succ_self effort.retriesLeft)

theorem follows_finish {claim : List Claim.Reply → Option (Except Abort Unit) × Device Store}
    {failure : Failure}
    (claimed : ∀ replies, claim replies = (some (.error failure), bench.device)) :
    Follows id claim (bench.finish id (.ended (.error failure))) :=
  ⟨[], .inl ⟨.error failure, mem_results_finish id _ bench, claimed⟩⟩

theorem follows_takeTurn (code : String) (bench : Bench) :
    Follows id (fun replies => bench.device.claimInTurn code replies) (bench.takeTurn id code) := by
  unfold takeTurn
  rcases opened : bench.device.openClaim code with ⟨failure | effort, device⟩
  · simp only [Device.claimInTurn, opened]
    exact follows_finish fun _ => rfl
  · simp only [Device.claimInTurn, opened]
    exact follows_attemptAll effort { bench with device := device }

theorem follows_goOn {waiting : Waiting}
    {claim : List Claim.Reply → Option (Except Abort Unit) × Device Store}
    (outlook : ∀ later, waiting.outlook later bench.device = some (claim later)) :
    Follows id claim (bench.goOn id waiting) := by
  have same : ∀ {other : List Claim.Reply → Option (Except Abort Unit) × Device Store},
      (∀ later, waiting.outlook later bench.device = some (other later)) → claim = other := by
    intro other equal
    funext later
    exact Option.some.inj ((outlook later).symm.trans (equal later))
  cases waiting with
  | turn code =>
      rw [same fun _ => rfl]
      exact follows_takeTurn code bench
  | outcome purpose effort content =>
      cases purpose with
      | grant => cases outlook []
      | authentication =>
          rw [same fun _ => rfl]
          exact follows_takeOutcome content effort bench fun next later _ =>
            follows_attemptAll next later
  | rest purpose effort =>
      cases purpose with
      | grant => cases outlook []
      | authentication =>
          rw [same fun _ => rfl]
          exact follows_attemptAll effort bench
  | sending generation result => cases outlook []

theorem follows_beginCall (code : String) :
    Follows id (bench.device.authenticate code) (bench.beginCall id (.authenticate code)) := by
  show Follows id _ (bench.askForTurn id code)
  unfold askForTurn
  cases admitted : bench.device.admitClaim code with
  | error failure =>
      apply follows_finish
      intro replies
      simp only [Device.authenticate, admitted]
  | ok =>
      have claimed : (fun replies => bench.device.authenticate code replies) =
          fun replies => bench.device.claimInTurn code replies := by
        funext replies
        simp only [Device.authenticate, admitted]
      rw [claimed]
      dsimp only
      split
      next => exact follows_takeTurn code _
      next => exact ⟨[], .inr ⟨.turn code, waiting?_await id _ _, fun later => rfl⟩⟩

end Bench

end DeviceAuth
