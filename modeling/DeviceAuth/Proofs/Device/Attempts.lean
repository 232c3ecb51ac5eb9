import DeviceAuth.Proofs.Device.Claim
import DeviceAuth.Proofs.Keeper.Retries
import DeviceAuth.Proofs.Storage.Reload

/-! The attempts of a claim, one after the other. Each request is posted with the identity in
the store and a nonce of its own; after an outcome that may pass comes a rest, until there is
an outcome that decides the claim. The random octets are used up in the order of the attempts,
so which of them go into a nonce or a delay is known beforehand. -/

namespace DeviceAuth

/-! ## Delays -/

namespace Backoff

theorem nominal_min (backoff : Backoff) (attempts : Nat) :
    backoff.nominal (min attempts greatestAttempts) = backoff.nominal attempts := by
  have bounded : greatestDoublings ≤ greatestAttempts := by decide
  rw [nominal, nominal, Nat.min_assoc, Nat.min_eq_right bounded]

def rested (settings : Settings) (rests : Nat) : Backoff :=
  { ofSettings settings with attempts := min rests greatestAttempts }

theorem rested_zero (settings : Settings) : rested settings 0 = ofSettings settings := rfl

theorem next_rested (settings : Settings) (rests : Nat) (random : Octets) :
    (rested settings rests).next random =
      (retryDelay settings (rests + 1) random, rested settings (rests + 1), random.drop 4) := by
  have delay : (rested settings rests).nominal (rested settings rests).attempts =
      (ofSettings settings).nominal rests := (ofSettings settings).nominal_min rests
  have counted : min ((rested settings rests).attempts + 1) greatestAttempts =
      min (rests + 1) greatestAttempts := by
    show min (min rests greatestAttempts + 1) greatestAttempts = _
    omega
  unfold next
  rw [delay, counted]
  rfl

end Backoff

namespace Claim

/-! ## Outcomes that decide a claim -/

/-- Whether the same request may have another outcome: the server did not answer in time or
could not be reached, or it says that it is too busy or has failed. -/
def Outcome.mayPass : Outcome → Bool
  | .ok answer => answer.status = 429 || (500 ≤ answer.status && answer.status < 600)
  | .error .timeout => true
  | .error (.connection _) => true
  | .error .rateLimited => true
  | .error (.server _) => true
  | .error .unavailable => false
  | .error (.invalidResponse _) => false

def allowsRetry : Except Failure Grant → Bool
  | .ok _ => false
  | .error failure => failure.isRetryable

theorem allowsRetry_grant (outcome : Outcome) : allowsRetry outcome.grant = outcome.mayPass := by
  rcases outcome with failure | answer
  case error => cases failure <;> rfl
  case ok =>
    have passes : Outcome.mayPass (.ok answer) = true ↔
        answer.status = 429 ∨ 500 ≤ answer.status ∧ answer.status < 600 := by
      simp only [Outcome.mayPass, Bool.or_eq_true, Bool.and_eq_true, decide_eq_true_eq]
    have stays (other : ¬ (answer.status = 429 ∨ 500 ≤ answer.status ∧ answer.status < 600)) :
        false = Outcome.mayPass (.ok answer) := (Bool.eq_false_iff.mpr (mt passes.mp other)).symm
    show allowsRetry answer.grant = _
    unfold Answer.grant
    split
    next success =>
      simp only [Answer.isSuccess, Bool.and_eq_true, decide_eq_true_eq] at success
      have other := stays (by omega)
      cases Grant.ofOctets? answer.body with
      | some grant => exact other
      | none => exact other
    next =>
      split
      next busy => exact (passes.mpr (.inl busy)).symm
      next quiet =>
        split
        next failed => exact (passes.mpr (.inr failed)).symm
        next fine =>
          have other := stays fun either => either.elim quiet fine
          split
          next => exact other
          next => exact other

def Outcome.result (outcome : Outcome) : Except Abort Grant :=
  outcome.grant.mapError Abort.failure

/-- The reply that decides a claim of at most so many requests: the first one that cannot pass,
or the last one if all before it may. -/
structure Decides (limit : Nat) (replies : List Reply) (index : Nat) (reply : Reply) : Prop where
  found : replies[index]? = some reply
  within : index < limit
  passing : ∀ earlier < index, ∀ other, replies[earlier]? = some other →
    other.outcome.mayPass = true
  last : index + 1 = limit ∨ reply.outcome.mayPass = false

namespace Decides

variable {limit index : Nat} {first reply : Reply} {rest : List Reply}

theorem head (decides : Decides limit (first :: rest) 0 reply) :
    first = reply ∧ (limit = 1 ∨ reply.outcome.mayPass = false) :=
  ⟨Option.some.inj decides.found, decides.last.imp Eq.symm id⟩

theorem tail (decides : Decides (limit + 1) (first :: rest) (index + 1) reply) :
    first.outcome.mayPass = true ∧ Decides limit rest index reply where
  left := decides.passing 0 (Nat.succ_pos index) first rfl
  right := {
    found := decides.found
    within := Nat.lt_of_succ_lt_succ decides.within
    passing := fun earlier before other found =>
      decides.passing (earlier + 1) (Nat.succ_lt_succ before) other found
    last := decides.last.imp_left Nat.succ.inj }

theorem cons (passes : first.outcome.mayPass = true) (decides : Decides limit rest index reply) :
    Decides (limit + 1) (first :: rest) (index + 1) reply where
  found := decides.found
  within := Nat.succ_lt_succ decides.within
  passing := by
    intro earlier before other found
    cases earlier with
    | zero => exact Option.some.inj found ▸ passes
    | succ earlier => exact decides.passing earlier (Nat.lt_of_succ_lt_succ before) other found
  last := decides.last.imp_left (congrArg Nat.succ)

theorem exists_of_length {limit : Nat} {replies : List Reply} (positive : 0 < limit)
    (enough : limit ≤ replies.length) : ∃ index reply, Decides limit replies index reply := by
  induction replies generalizing limit with
  | nil => exact absurd positive (Nat.not_lt.mpr enough)
  | cons first rest induction =>
      obtain ⟨limit, rfl⟩ := Nat.exists_eq_succ_of_ne_zero (Nat.ne_of_gt positive)
      by_cases final : limit = 0 ∨ first.outcome.mayPass = false
      · refine ⟨0, first, rfl, positive, nofun, ?_⟩
        exact final.imp_left fun none => congrArg Nat.succ none.symm
      · rw [not_or, Bool.not_eq_false] at final
        obtain ⟨index, reply, decides⟩ :=
          induction (Nat.pos_of_ne_zero final.1) (Nat.le_of_succ_le_succ enough)
        exact ⟨index + 1, reply, decides.cons final.2⟩

end Decides

/-! ## What an effort does -/

inductive Deed where
  | post (request : Request)
  | rest (delay : Span)
deriving DecidableEq

namespace Deed

def request? : Deed → Option Request
  | .post request => some request
  | .rest _ => none

def delay? : Deed → Option Span
  | .post _ => none
  | .rest delay => some delay

def attempts (request : Nat → Request) (delay : Nat → Span) (index : Nat) : List Deed :=
  (List.range index).flatMap (fun attempt => [.post (request attempt), .rest (delay attempt)]) ++
    [.post (request index)]

theorem attempts_succ (request : Nat → Request) (delay : Nat → Span) (index : Nat) :
    attempts request delay (index + 1) = .post (request 0) :: .rest (delay 0) ::
      attempts (fun attempt => request (attempt + 1)) (fun attempt => delay (attempt + 1))
        index := by
  simp only [attempts, List.range_succ_eq_map, List.flatMap_cons, List.flatMap_map,
    List.cons_append, List.nil_append]

theorem requests_attempts (request : Nat → Request) (delay : Nat → Span) (index : Nat) :
    (attempts request delay index).filterMap request? = (List.range (index + 1)).map request := by
  induction index generalizing request delay with
  | zero => rfl
  | succ index induction =>
      rw [attempts_succ, List.range_succ_eq_map, List.map_cons, List.map_map]
      exact congrArg _ (induction _ _)

theorem delays_attempts (request : Nat → Request) (delay : Nat → Span) (index : Nat) :
    (attempts request delay index).filterMap delay? = (List.range index).map delay := by
  induction index generalizing request delay with
  | zero => rfl
  | succ index induction =>
      rw [attempts_succ, List.range_succ_eq_map, List.map_cons, List.map_map]
      exact congrArg _ (induction _ _)

end Deed

def octetsPerAttempt : Nat := nonceSize + 4

def nonceAt (random : Octets) (attempt : Nat) : Octets :=
  (drawNonce (random.drop (attempt * octetsPerAttempt))).1

theorem nonceAt_zero (random : Octets) : nonceAt random 0 = (drawNonce random).1 := by
  rw [nonceAt, Nat.zero_mul, List.drop_zero]

theorem drop_nextAttempt (random : Octets) (attempt more : Nat) :
    (random.drop octetsPerAttempt).drop (attempt * octetsPerAttempt + more) =
      random.drop ((attempt + 1) * octetsPerAttempt + more) := by
  rw [List.drop_drop, Nat.succ_mul]
  congr 1
  omega

theorem nonceAt_drop (random : Octets) (attempt : Nat) :
    nonceAt (random.drop octetsPerAttempt) attempt = nonceAt random (attempt + 1) :=
  congrArg (fun stream => (drawNonce stream).1) (drop_nextAttempt random attempt 0)

/-- The delay after an attempt: the nominal delay, spread with the word that comes after the
nonce. There is none if it would be too long for a span. -/
def delayAt (settings : Settings) (random : Octets) (attempt : Nat) : Except Panic Span :=
  let backoff := Backoff.ofSettings settings
  Backoff.spread (backoff.nominal attempt) backoff.jitter
    (Octets.drawWord (random.drop (attempt * octetsPerAttempt + nonceSize))).1

def Request.of (settings : Settings) (identity : String × Secret) (childId : String)
    (nonce : Octets) : Request where
  deviceId := identity.1
  childId := childId
  nonce := Hexadecimal.encode nonce
  proof := Claim.proof identity.2 identity.1 childId nonce
  firmwareVersion := settings.firmwareVersion

end Claim

namespace Device

open Reliable (Works shelf perform_agrees)

/-! ## An effort with all that it does -/

structure Course (σ : Type) where
  deeds : List Claim.Deed
  result : Option (Except Abort Claim.Grant)
  device : Device σ

def Course.after {σ : Type} (deed : Claim.Deed) (course : Course σ) : Course σ :=
  { course with deeds := deed :: course.deeds }

variable {σ : Type} [Backend σ]

def followReplies : List Claim.Reply → Claim.Effort → Device σ → Course σ
  | [], _, device => ⟨[], none, device⟩
  | reply :: rest, effort, device =>
      match { device with now := reply.now }.judge reply.outcome.grant effort with
      | (.finish result, _, device) => ⟨[], some result, device⟩
      | (.rest delay, effort, device) =>
          match device.prepareRequest effort.childId with
          | (.error failure, device) => ⟨[.rest delay], some (.error failure), device⟩
          | (.ok request, device) =>
              ((followReplies rest effort device).after (.post request)).after (.rest delay)

def makeAttempts (replies : List Claim.Reply) (effort : Claim.Effort) (device : Device σ) :
    Course σ :=
  match device.prepareRequest effort.childId with
  | (.error failure, device) => ⟨[], some (.error failure), device⟩
  | (.ok request, device) => (followReplies replies effort device).after (.post request)

theorem followReplies_eq (replies : List Claim.Reply) (effort : Claim.Effort)
    (device : Device σ) :
    device.awaitReplies replies effort =
      ((device.followReplies replies effort).result,
        (device.followReplies replies effort).device) := by
  induction replies generalizing effort device with
  | nil => rfl
  | cons reply rest induction =>
      rcases judged : { device with now := reply.now }.judge reply.outcome.grant effort
        with ⟨delay | result, next, after⟩
      case finish => simp only [awaitReplies, followReplies, judged]
      case rest =>
        simp only [awaitReplies, followReplies, judged]
        rcases after.prepareRequest next.childId with ⟨failure | request, prepared⟩
        case error => rfl
        case ok => exact induction next prepared

theorem attemptClaim_eq_makeAttempts (replies : List Claim.Reply) (effort : Claim.Effort)
    (device : Device σ) :
    device.attemptClaim replies effort =
      ((device.makeAttempts replies effort).result,
        (device.makeAttempts replies effort).device) := by
  rw [attemptClaim, makeAttempts]
  rcases device.prepareRequest effort.childId with ⟨failure | request, prepared⟩
  case error => rfl
  case ok => exact followReplies_eq replies effort prepared

theorem followReplies_of_rest {device after : Device σ} {effort next : Claim.Effort}
    (reply : Claim.Reply) {delay : Span}
    (judged : { device with now := reply.now }.judge reply.outcome.grant effort =
      (.rest delay, next, after)) (rest : List Claim.Reply) :
    device.followReplies (reply :: rest) effort =
      (after.makeAttempts rest next).after (.rest delay) := by
  rw [followReplies, judged, makeAttempts]
  dsimp only
  rcases after.prepareRequest next.childId with ⟨failure | request, prepared⟩
  case error => rfl
  case ok => rfl

theorem followReplies_of_finish {device after : Device σ} {effort next : Claim.Effort}
    (reply : Claim.Reply) {result : Except Abort Claim.Grant}
    (judged : { device with now := reply.now }.judge reply.outcome.grant effort =
      (.finish result, next, after)) (rest : List Claim.Reply) :
    device.followReplies (reply :: rest) effort = ⟨[], some result, after⟩ := by
  rw [followReplies, judged]

/-! ## Single steps -/

omit [Backend σ] in
theorem judge_of_decided {outcome : Claim.Outcome} (effort : Claim.Effort) (device : Device σ)
    (decided : effort.retriesLeft = 0 ∨ outcome.mayPass = false) :
    device.judge outcome.grant effort = (.finish outcome.result, effort, device) := by
  have retryable := Claim.allowsRetry_grant outcome
  unfold judge Claim.Effort.judge Claim.Outcome.result
  generalize outcome.grant = result at retryable ⊢
  rcases result with failure | grant
  case ok => rfl
  case error =>
    have stops : (failure.isRetryable && 0 < effort.retriesLeft) = false := by
      rcases decided with none | stays
      · simp [none]
      · rw [show failure.isRetryable = outcome.mayPass from retryable, stays, Bool.false_and]
    simp only [stops]
    rfl

omit [Backend σ] in
theorem judge_of_mayPass {outcome : Claim.Outcome} {childId : String} {retries rests : Nat}
    {delay : Span} (device : Device σ) (passes : outcome.mayPass = true)
    (drawn : Backoff.retryDelay device.settings (rests + 1) device.random = .ok delay) :
    device.judge outcome.grant ⟨childId, retries + 1, .rested device.settings rests⟩ =
      (.rest delay, ⟨childId, retries, .rested device.settings (rests + 1)⟩,
        { device with random := device.random.drop 4 }) := by
  have retryable := Claim.allowsRetry_grant outcome
  unfold judge Claim.Effort.judge
  generalize outcome.grant = result at retryable ⊢
  rcases result with failure | grant
  case ok =>
    rw [passes] at retryable
    cases retryable
  case error =>
    have again : (failure.isRetryable && 0 < retries + 1) = true := by
      rw [show failure.isRetryable = outcome.mayPass from retryable, passes]
      simp
    simp only [again, Backoff.next_rested, drawn]
    rfl

omit [Backend σ] in
def later (store : σ) (used : Nat) (now : UInt32) (device : Device σ) : Device σ :=
  { device with store := store, random := device.random.drop used, now := now }

omit [Backend σ] in
theorem later_later (device : Device σ) (first second : σ) (used more : Nat)
    (earlier now : UInt32) :
    (device.later first used earlier).later second more now =
      device.later second (used + more) now := by
  simp only [later, List.drop_drop]

variable [Reliable σ] {device : Device σ} {identity : String × Secret}

structure Identifies (identity : String × Secret) (device : Device σ) : Prop where
  works : Works device.store
  loads : ((Credentials.loadIdentity device.address).perform (shelf device.store)).1 = .ok identity

def identified (device : Device σ) : Shelf :=
  ((Credentials.loadIdentity device.address).perform (shelf device.store)).2

theorem prepareRequest_of_identifies (identifies : Identifies identity device)
    (childId : String) :
    ∃ store, device.prepareRequest childId =
        (.ok (.of device.settings identity childId (Claim.drawNonce device.random).1),
          device.later store Claim.nonceSize device.now) ∧
      Works store ∧ shelf store = device.identified ∧
      (Credentials.loadIdentity device.address).perform (shelf store) =
        (.ok identity, shelf store) := by
  have agrees := perform_agrees (Credentials.loadIdentity device.address) identifies.works
  have loaded : (Credentials.loadIdentity device.address).perform device.store =
      (.ok identity, ((Credentials.loadIdentity device.address).perform device.store).2) :=
    Prod.ext (agrees.result.trans identifies.loads) rfl
  have again := Credentials.loadIdentity_again (Prod.ext identifies.loads rfl)
  refine ⟨_, ?_, agrees.works, agrees.shelf, ?_⟩
  · obtain ⟨id, secret⟩ := identity
    unfold prepareRequest Claim.Request.prepare
    rw [loaded]
    rfl
  · rw [agrees.shelf]
    exact again

theorem makeAttempts_of_head {replies : List Claim.Reply} {reply : Claim.Reply} {retries : Nat}
    (identifies : Identifies identity device)
    (decides : Claim.Decides (retries + 1) replies 0 reply) (childId : String)
    (backoff : Backoff) :
    ∃ store, Works store ∧ shelf store = device.identified ∧
      device.makeAttempts replies ⟨childId, retries, backoff⟩ =
        ⟨[.post (.of device.settings identity childId (Claim.drawNonce device.random).1)],
          some reply.outcome.result, device.later store Claim.nonceSize reply.now⟩ := by
  obtain ⟨store, prepared, works, moved, _⟩ := prepareRequest_of_identifies identifies childId
  refine ⟨store, works, moved, ?_⟩
  cases replies with
  | nil => cases decides.found
  | cons first rest =>
      obtain ⟨rfl, last⟩ := decides.head
      have judged := judge_of_decided ⟨childId, retries, backoff⟩
        (device.later store Claim.nonceSize first.now) (last.imp_left Nat.succ.inj)
      rw [makeAttempts, prepared]
      dsimp only
      rw [followReplies_of_finish first judged]
      rfl

theorem makeAttempts_of_tail {first : Claim.Reply} {rests : Nat} {delay : Span}
    (identifies : Identifies identity device) (passes : first.outcome.mayPass = true)
    (drawn : Backoff.retryDelay device.settings (rests + 1)
      (device.random.drop Claim.nonceSize) = .ok delay)
    (rest : List Claim.Reply) (childId : String) (retries : Nat) :
    ∃ store, shelf store = device.identified ∧
      (device.later store Claim.octetsPerAttempt first.now).Identifies identity ∧
      (device.later store Claim.octetsPerAttempt first.now).identified = device.identified ∧
      device.makeAttempts (first :: rest) ⟨childId, retries + 1, .rested device.settings rests⟩ =
        (((device.later store Claim.octetsPerAttempt first.now).makeAttempts rest
            ⟨childId, retries, .rested device.settings (rests + 1)⟩).after (.rest delay)).after
          (.post (.of device.settings identity childId (Claim.drawNonce device.random).1)) := by
  obtain ⟨store, prepared, works, moved, again⟩ :=
    prepareRequest_of_identifies identifies childId
  have judged : (device.later store Claim.nonceSize first.now).judge first.outcome.grant
      ⟨childId, retries + 1, .rested device.settings rests⟩ =
        (.rest delay, ⟨childId, retries, .rested device.settings (rests + 1)⟩,
          (device.later store Claim.nonceSize first.now).later store 4 first.now) :=
    judge_of_mayPass (device.later store Claim.nonceSize first.now) passes drawn
  refine ⟨store, moved, ⟨works, congrArg Prod.fst again⟩, ?_, ?_⟩
  · exact (congrArg Prod.snd again).trans moved
  · rw [later_later] at judged
    rw [makeAttempts, prepared]
    dsimp only
    rw [followReplies_of_rest first judged]
    rfl

/-- An effort posts requests and rests between them until there is an outcome that decides the
claim. -/
theorem makeAttempts_of_decides {replies : List Claim.Reply} {index retries rests : Nat}
    {reply : Claim.Reply} {delay : Nat → Span} (identifies : Identifies identity device)
    (decides : Claim.Decides (retries + 1) replies index reply)
    (drawn : ∀ attempt < index, Backoff.retryDelay device.settings (rests + attempt + 1)
      (device.random.drop (attempt * Claim.octetsPerAttempt + Claim.nonceSize)) =
        .ok (delay attempt)) (childId : String) :
    ∃ store, Works store ∧ shelf store = device.identified ∧
      device.makeAttempts replies ⟨childId, retries, .rested device.settings rests⟩ =
        ⟨Claim.Deed.attempts
            (fun attempt => .of device.settings identity childId
              (Claim.nonceAt device.random attempt)) delay index,
          some reply.outcome.result,
          device.later store (index * Claim.octetsPerAttempt + Claim.nonceSize) reply.now⟩ := by
  -- On the attempts before the one that decides. Each leaves a device from which the identity
  -- can be loaded, with one retry fewer and the random octets of one attempt used up.
  induction index generalizing replies retries rests device delay with
  | zero =>
      obtain ⟨store, works, moved, made⟩ :=
        makeAttempts_of_head identifies decides childId (.rested device.settings rests)
      refine ⟨store, works, moved, made.trans ?_⟩
      simp only [Claim.Deed.attempts, Claim.nonceAt, List.range_zero, List.flatMap_nil,
        List.nil_append, Nat.zero_mul, Nat.zero_add, List.drop_zero]
  | succ index induction =>
      obtain ⟨retries, rfl⟩ : ∃ fewer, retries = fewer + 1 :=
        Nat.exists_eq_succ_of_ne_zero (by have := decides.within; omega)
      cases replies with
      | nil => cases decides.found
      | cons first rest =>
          obtain ⟨passes, others⟩ := decides.tail
          have now := drawn 0 (Nat.succ_pos index)
          rw [Nat.zero_mul, Nat.zero_add] at now
          obtain ⟨store, _, identified, same, made⟩ :=
            makeAttempts_of_tail identifies passes now rest childId retries
          let rested := device.later store Claim.octetsPerAttempt first.now
          have drawnLater : ∀ attempt < index,
              Backoff.retryDelay rested.settings (rests + 1 + attempt + 1)
                (rested.random.drop (attempt * Claim.octetsPerAttempt + Claim.nonceSize)) =
                  .ok (delay (attempt + 1)) := by
            intro attempt before
            have drawn := drawn (attempt + 1) (Nat.succ_lt_succ before)
            show Backoff.retryDelay device.settings _
              ((device.random.drop Claim.octetsPerAttempt).drop _) = _
            rw [Claim.drop_nextAttempt, ← drawn, Nat.add_right_comm rests 1 attempt]
            rfl
          obtain ⟨final, works, moved, others⟩ := induction identified others drawnLater
          have others : rested.makeAttempts rest
              ⟨childId, retries, .rested device.settings (rests + 1)⟩ = _ := others
          have used : Claim.octetsPerAttempt + (index * Claim.octetsPerAttempt + Claim.nonceSize) =
              (index + 1) * Claim.octetsPerAttempt + Claim.nonceSize := by
            rw [Nat.succ_mul]
            omega
          refine ⟨final, works, moved.trans same, ?_⟩
          rw [made, others, later_later, used, Claim.Deed.attempts_succ, Claim.nonceAt_zero]
          simp only [← Claim.nonceAt_drop]
          rfl

/-! ## A claim from its first request on -/

theorem makeAttempts_persistent {replies : List Claim.Reply} {index : Nat} {reply : Claim.Reply}
    {delay : Nat → Span} (identifies : Identifies identity device)
    (decides : Claim.Decides (max 1 device.settings.claimAttempts) replies index reply)
    (drawn : ∀ attempt < index,
      Claim.delayAt device.settings device.random attempt = .ok (delay attempt))
    (childId : String) :
    ∃ store, Works store ∧ shelf store = device.identified ∧
      device.makeAttempts replies (.persistent device.settings childId) =
        ⟨Claim.Deed.attempts
            (fun attempt => .of device.settings identity childId
              (Claim.nonceAt device.random attempt)) delay index,
          some reply.outcome.result,
          device.later store (index * Claim.octetsPerAttempt + Claim.nonceSize) reply.now⟩ := by
  have requests : device.settings.claimAttempts - 1 + 1 = max 1 device.settings.claimAttempts := by
    omega
  have fresh : Claim.Effort.persistent device.settings childId =
      ⟨childId, device.settings.claimAttempts - 1, .rested device.settings 0⟩ := by
    rw [Backoff.rested_zero]
    rfl
  rw [← requests] at decides
  rw [fresh]
  apply makeAttempts_of_decides identifies decides
  intro attempt before
  rw [Nat.zero_add]
  exact drawn attempt before

/-- A claim went like this: a request for each reply up to the one that decides the claim, each
with the next nonce, and after each but the last a rest for the delay that was drawn. -/
structure Attempted (identity : String × Secret) (childId : String) (delay : Nat → Span)
    (index : Nat) (reply : Claim.Reply) (device : Device σ) (course : Course σ) : Prop where
  posts : course.deeds.filterMap Claim.Deed.request? = (List.range (index + 1)).map
    fun attempt => .of device.settings identity childId (Claim.nonceAt device.random attempt)
  rests : course.deeds.filterMap Claim.Deed.delay? = (List.range index).map delay
  order : course.deeds = Claim.Deed.attempts
    (fun attempt => .of device.settings identity childId (Claim.nonceAt device.random attempt))
    delay index
  result : course.result = some reply.outcome.result
  works : Works course.device.store
  identified : shelf course.device.store = device.identified
  device : course.device = device.later course.device.store
    (index * Claim.octetsPerAttempt + Claim.nonceSize) reply.now

/-- With a store that works there is exactly one request for each reply up to the one that
decides the claim, which is what the claim results in, as long as every delay that is drawn is
a span. -/
theorem attempted_makeAttempts (identifies : device.Identifies identity) (childId : String)
    {replies : List Claim.Reply} (enough : max 1 device.settings.claimAttempts ≤ replies.length) :
    let limit := max 1 device.settings.claimAttempts
    let effort := Claim.Effort.persistent device.settings childId
    (∃ index reply, Claim.Decides limit replies index reply) ∧
      ∀ index reply delay, Claim.Decides limit replies index reply →
        (∀ attempt < index,
          Claim.delayAt device.settings device.random attempt = .ok (delay attempt)) →
        device.attemptClaim replies effort =
            (some reply.outcome.result, (device.makeAttempts replies effort).device) ∧
          Attempted identity childId delay index reply device
            (device.makeAttempts replies effort) := by
  intro limit effort
  refine ⟨Claim.Decides.exists_of_length (Nat.le_max_left 1 _) enough, ?_⟩
  intro index reply delay decides drawn
  obtain ⟨store, works, moved, made⟩ := makeAttempts_persistent identifies decides drawn childId
  rw [attemptClaim_eq_makeAttempts, made]
  refine ⟨rfl, ?_⟩
  exact {
    posts := Claim.Deed.requests_attempts _ _ _
    rests := Claim.Deed.delays_attempts _ _ _
    order := rfl
    result := rfl
    works := works
    identified := moved
    device := rfl }

def stocked : Device Memory := { claimant with random := (List.range 40).map UInt8.ofNat }

def stockedIdentity : String × Secret := ("000102030405", Secret.derive "000102030405")

theorem identifies_stocked : stocked.Identifies stockedIdentity where
  works := by
    constructor
    · decide +kernel
    · decide +kernel
  loads := by decide +kernel

def late (reply : Claim.Reply) : List Claim.Reply :=
  ⟨.error .timeout, 1000⟩ :: List.replicate 4 reply

theorem decides_late {reply : Claim.Reply} (final : reply.outcome.mayPass = false) :
    Claim.Decides 5 (late reply) 1 reply where
  found := rfl
  within := by decide
  passing := by
    intro earlier before other found
    obtain rfl : earlier = 0 := Nat.lt_one_iff.mp before
    cases found
    rfl
  last := .inr final

theorem attempted_lateRefusal :
    let effort := Claim.Effort.persistent stocked.settings "child"
    let delay := fun _ : Nat => Span.mk 787247213
    stocked.Identifies stockedIdentity ∧
      max 1 stocked.settings.claimAttempts ≤ (late refusal).length ∧
      Claim.Decides (max 1 stocked.settings.claimAttempts) (late refusal) 1 refusal ∧
      (∀ attempt < 1, Claim.delayAt stocked.settings stocked.random attempt =
        .ok (delay attempt)) ∧
      stocked.attemptClaim (late refusal) effort =
        (some refusal.outcome.result, (stocked.makeAttempts (late refusal) effort).device) ∧
      Attempted stockedIdentity "child" delay 1 refusal stocked
        (stocked.makeAttempts (late refusal) effort) := by
  intro effort delay
  have enough : max 1 stocked.settings.claimAttempts ≤ (late refusal).length := by decide
  have decides : Claim.Decides 5 (late refusal) 1 refusal := decides_late rfl
  have drawn : ∀ attempt < 1, Claim.delayAt stocked.settings stocked.random attempt =
      .ok (delay attempt) := by
    intro attempt before
    obtain rfl : attempt = 0 := Nat.lt_one_iff.mp before
    decide +kernel
  have attempted := (attempted_makeAttempts identifies_stocked "child" enough).2 1 refusal delay
    decides drawn
  exact ⟨identifies_stocked, enough, decides, drawn, attempted⟩

def weary : Device Memory :=
  { stocked with
    settings := { backoffBase := Span.longest, backoffCap := Span.longest, backoffJitter := 0 } }

theorem identifies_weary : weary.Identifies stockedIdentity :=
  ⟨identifies_stocked.works, identifies_stocked.loads⟩

def granted : Claim.Reply :=
  ⟨.ok ⟨200, Octets.ofText
    "\x7b\"access_token\":\"access\",\"refresh_token\":\"refresh\",\"expires_in\":3600\x7d"⟩, 1000⟩

/-- The longest span is too long for a span as a float. So the claim ends with a panic and
without a second request, although the settings are accepted and the outcome of the first one
may pass. -/
theorem not_attempted_weary :
    let course := weary.makeAttempts (late granted) (.persistent weary.settings "child")
    weary.settings.check = .ok () ∧ weary.Identifies stockedIdentity ∧
      Claim.Decides (max 1 weary.settings.claimAttempts) (late granted) 1 granted ∧
      granted.outcome.grant.toOption.isSome = true ∧
      (course.deeds.filterMap Claim.Deed.request?).length = 1 ∧
      course.result.map (·.map fun _ => ()) = some (.error Panic.span) := by
  intro course
  exact ⟨by decide +kernel, identifies_weary, decides_late rfl, by decide +kernel,
    by decide +kernel, by decide +kernel⟩

end Device

end DeviceAuth
