import DeviceAuth.Proofs.Bench.Claims
import DeviceAuth.Proofs.Device.Attempts

/-! Attempts on the bench. A call that claims makes its attempts in pieces, with whatever else
happens in between. Each piece goes on with the course of the attempts as a whole, and the bench
keeps the requests that are posted on the way: they are the ones of the course, in its order. -/

namespace DeviceAuth

namespace Device

variable {σ : Type}

def Course.afterAll (deeds : List Claim.Deed) (course : Course σ) : Course σ :=
  { course with deeds := deeds ++ course.deeds }

theorem Course.afterAll_append (earlier later : List Claim.Deed) (course : Course σ) :
    course.afterAll (earlier ++ later) = (course.afterAll later).afterAll earlier := by
  rw [afterAll, afterAll, afterAll, List.append_assoc]

end Device

namespace Bench

open Device (Course)

variable {id : Nat} {before middle after bench : Bench}

def Waiting.course? (replies : List Claim.Reply) (device : Device Store) :
    Waiting → Option (Course Store)
  | .outcome .grant effort content =>
      some (device.followReplies (⟨content, device.now⟩ :: replies) effort)
  | .rest .grant effort => some (device.makeAttempts replies effort)
  | _ => none

def posted (settings : Settings) (deeds : List Claim.Deed) : List (String × String) :=
  (deeds.filterMap Claim.Deed.request?).map fun request => (settings.claimUrl, request.text)

theorem posted_append (settings : Settings) (earlier later : List Claim.Deed) :
    posted settings (earlier ++ later) = posted settings earlier ++ posted settings later := by
  rw [posted, List.filterMap_append, List.map_append]
  rfl

structure Posts (deeds : List Claim.Deed) (before after : Bench) : Prop where
  settings : after.device.settings = before.device.settings
  requests : after.requests = before.requests ++ posted before.device.settings deeds

theorem Posts.none (settings : after.device.settings = before.device.settings)
    (requests : after.requests = before.requests) : Posts [] before after :=
  ⟨settings, requests.trans (List.append_nil _).symm⟩

theorem Posts.trans {earlier later : List Claim.Deed} (first : Posts earlier before middle)
    (second : Posts later middle after) : Posts (earlier ++ later) before after where
  settings := second.settings.trans first.settings
  requests := by
    rw [second.requests, first.requests, first.settings, posted_append, List.append_assoc]

/-- A call does the first deeds of a course: it has ended as the course ends, or waits for what
the course goes on with. The replies that came meanwhile are the first ones of the course. -/
def Pursues (id : Nat) (course : List Claim.Reply → Course Store) (before after : Bench) :
    Prop :=
  ∃ replies deeds, Posts deeds before after ∧
    ((∃ result, (id, .granted result) ∈ after.results ∧ after.waiting? id = none ∧
        ∀ later, course (replies ++ later) = ⟨deeds, some result, after.device⟩) ∨
      ∃ (waiting : Waiting) (rest : List Claim.Reply → Course Store),
        after.waiting? id = some waiting ∧ ∀ later,
          waiting.course? later after.device = some (rest later) ∧
            course (replies ++ later) = (rest later).afterAll deeds)

theorem waiting?_finish (id : Nat) (result : CallResult) (bench : Bench) :
    (bench.finish id result).waiting? id = none :=
  congrArg (Option.map _) (find?_others id bench)

namespace Pursues

variable {course other : List Claim.Reply → Course Store}

theorem ends {result : Except Abort Claim.Grant}
    (ended : ∀ replies, course replies = ⟨[], some result, bench.device⟩) :
    Pursues id course bench (bench.endEffort id .grant result) :=
  ⟨[], [], .none rfl rfl, .inl ⟨result, mem_results_finish id _ bench,
    waiting?_finish id _ bench, ended⟩⟩

theorem waits {waiting : Waiting} {goOn : Bench → Bench} (delay : Span)
    (outlook : ∀ later, waiting.course? later bench.device = some (course later))
    (goesOn : Pursues id course bench (goOn bench)) :
    Pursues id course bench (bench.awaitFor delay id waiting goOn) := by
  unfold awaitFor
  cases sleeps : bench.sleepFor? delay (.call id) with
  | none => exact goesOn
  | some asleep =>
      obtain ⟨alarms, rfl⟩ : ∃ alarms, asleep = { bench with alarms := alarms } := by
        unfold sleepFor? sleepUntil? at sleeps
        split at sleeps
        · cases sleeps
        · exact ⟨_, (Option.some.inj sleeps).symm⟩
      exact ⟨[], [], .none rfl rfl, .inr ⟨waiting, course, waiting?_await id waiting _,
        fun later => ⟨outlook later, rfl⟩⟩⟩

theorem continues (pursues : Pursues id other middle after) {done : List Claim.Deed}
    (posts : Posts done before middle) (came : List Claim.Reply)
    (same : ∀ later, course (came ++ later) = (other later).afterAll done) :
    Pursues id course before after := by
  obtain ⟨replies, deeds, further, state⟩ := pursues
  refine ⟨came ++ replies, done ++ deeds, posts.trans further, state.imp ?_ ?_⟩
  · rintro ⟨result, ended, noMore, equal⟩
    refine ⟨result, ended, noMore, fun later => ?_⟩
    rw [List.append_assoc, same, equal]
    rfl
  · rintro ⟨waiting, rest, found, outlook⟩
    refine ⟨waiting, rest, found, fun later => ⟨(outlook later).1, ?_⟩⟩
    rw [List.append_assoc, same, (outlook later).2, Course.afterAll_append]

end Pursues

/-! ## The pieces of the attempts -/

section Pieces

variable {again : Claim.Effort → Bench → Bench} {effort : Claim.Effort}

def PursuesAgain (id : Nat) (effort : Claim.Effort) (again : Claim.Effort → Bench → Bench) :
    Prop :=
  ∀ (next : Claim.Effort) (later : Bench), next.retriesLeft < effort.retriesLeft →
    Pursues id (fun replies => later.device.makeAttempts replies next) later (again next later)

theorem pursues_takeOutcome (goOn : PursuesAgain id effort again) (outcome : Claim.Outcome)
    (bench : Bench) :
    Pursues id
      (fun replies =>
        bench.device.followReplies (⟨outcome, bench.device.now⟩ :: replies) effort)
      bench (bench.takeOutcome again id .grant outcome effort) := by
  have kept : (bench.device.judge outcome.grant effort).2.2.settings = bench.device.settings := rfl
  unfold takeOutcome
  rcases judged : bench.device.judge outcome.grant effort with ⟨delay | result, next, device⟩
  all_goals rw [judged] at kept
  · have fewer := Device.retriesLeft_of_rest judged
    have rested : Pursues id (fun replies => device.makeAttempts replies next)
        { bench with device := device }
        (({ bench with device := device } : Bench).awaitFor delay id (.rest .grant next)
          (again next)) :=
      .waits delay (fun _ => rfl) (goOn next { bench with device := device } fewer)
    have posts : Posts [.rest delay] bench { bench with device := device } :=
      ⟨kept, (List.append_nil _).symm⟩
    apply rested.continues posts []
    exact fun later => Device.followReplies_of_rest ⟨outcome, bench.device.now⟩ judged later
  · have ended : Pursues id (fun _ => ⟨[], some result, device⟩) { bench with device := device }
        (({ bench with device := device } : Bench).endEffort id .grant result) :=
      .ends fun _ => rfl
    have posts : Posts [] bench { bench with device := device } := .none kept rfl
    apply ended.continues posts []
    exact fun later => Device.followReplies_of_finish ⟨outcome, bench.device.now⟩ judged later

theorem pursues_send (goOn : PursuesAgain id effort again) (request : Claim.Request)
    (bench : Bench) :
    Pursues id
      (fun replies => (bench.device.followReplies replies effort).after (.post request))
      bench (bench.send again id .grant request effort) := by
  unfold send
  rcases nextLine lastOutcome bench.outcomes with ⟨reply, outcomes⟩
  let sent : Bench := { bench with
    outcomes := outcomes
    requests := bench.requests ++ [(bench.device.settings.claimUrl, request.text)] }
  have taken := pursues_takeOutcome goOn reply.content sent
  have waited : Pursues id
      (fun replies => sent.device.followReplies (⟨reply.content, sent.device.now⟩ :: replies)
        effort) sent (sent.awaitFor (Span.ofMilliseconds reply.delay) id
          (.outcome .grant effort reply.content)
          (takeOutcome again id .grant reply.content effort)) :=
    .waits _ (fun _ => rfl) taken
  have posts : Posts [.post request] bench sent := ⟨rfl, rfl⟩
  apply waited.continues posts [⟨reply.content, sent.device.now⟩]
  exact fun later => rfl

theorem pursues_post (goOn : PursuesAgain id effort again) (bench : Bench) :
    Pursues id (fun replies => bench.device.makeAttempts replies effort) bench
      (bench.post again id .grant effort) := by
  have kept : (bench.device.prepareRequest effort.childId).2.settings =
      bench.device.settings := rfl
  unfold post
  rcases prepared : bench.device.prepareRequest effort.childId with ⟨failure | request, device⟩
  all_goals
    rw [prepared] at kept
    have posts : Posts [] bench { bench with device := device } := .none kept rfl
  · have ended : Pursues id (fun _ => ⟨[], some (.error failure), device⟩)
        { bench with device := device }
        (({ bench with device := device } : Bench).endEffort id .grant (.error failure)) :=
      .ends fun _ => rfl
    apply ended.continues posts []
    intro later
    show bench.device.makeAttempts later effort = _
    rw [Device.makeAttempts, prepared]
    rfl
  · apply (pursues_send goOn request { bench with device := device }).continues posts []
    intro later
    show bench.device.makeAttempts later effort = _
    rw [Device.makeAttempts, prepared]
    rfl

theorem pursues_attempt {attempts : Nat} (enough : effort.retriesLeft < attempts)
    (bench : Bench) :
    Pursues id (fun replies => bench.device.makeAttempts replies effort) bench
      (bench.attempt id .grant attempts effort) := by
  induction attempts generalizing effort bench with
  | zero => omega
  | succ attempts induction =>
      apply pursues_post
      intro next later fewer
      exact induction (by omega) later

theorem pursues_attemptAll (effort : Claim.Effort) (bench : Bench) :
    Pursues id (fun replies => bench.device.makeAttempts replies effort) bench
      (bench.attemptAll id .grant effort) :=
  pursues_attempt (Nat.lt_succ_self effort.retriesLeft) bench

end Pieces

theorem pursues_goOn {waiting : Waiting} {course : List Claim.Reply → Course Store}
    (outlook : ∀ later, waiting.course? later bench.device = some (course later)) :
    Pursues id course bench (bench.goOn id waiting) := by
  have same : ∀ {other : List Claim.Reply → Course Store},
      (∀ later, waiting.course? later bench.device = some (other later)) → course = other := by
    intro other equal
    funext later
    exact Option.some.inj ((outlook later).symm.trans (equal later))
  cases waiting with
  | outcome purpose effort content =>
      cases purpose with
      | authentication => cases outlook []
      | grant =>
          rw [same fun _ => rfl]
          exact pursues_takeOutcome (fun next later _ => pursues_attemptAll next later) content
            bench
  | rest purpose effort =>
      cases purpose with
      | authentication => cases outlook []
      | grant =>
          rw [same fun _ => rfl]
          exact pursues_attemptAll effort bench
  | turn code => cases outlook []
  | sending generation result => cases outlook []

theorem pursues_beginCall (childId : String) (bench : Bench) :
    Pursues id
      (fun replies =>
        bench.device.makeAttempts replies (.persistent bench.device.settings childId))
      bench (bench.beginCall id (.claim childId)) :=
  pursues_attemptAll _ bench

theorem Pursues.goOn {course : List Claim.Reply → Course Store}
    (pursues : Pursues id course before middle) {waiting : Waiting}
    (waits : middle.waiting? id = some waiting) :
    Pursues id course before (middle.goOn id waiting) := by
  obtain ⟨replies, deeds, posts, ⟨_, _, noMore, _⟩ | ⟨expected, rest, found, outlook⟩⟩ := pursues
  · rw [noMore] at waits
    cases waits
  · obtain rfl := Option.some.inj (found.symm.trans waits)
    exact (pursues_goOn fun later => (outlook later).1).continues posts replies
      fun later => (outlook later).2

end Bench

end DeviceAuth
