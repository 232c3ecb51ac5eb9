import DeviceAuth.Proofs.Activity.Quiet
import DeviceAuth.Proofs.Claimants.Turns
import DeviceAuth.Proofs.Storage.Grants

/-! Claims one after the other. Of any two claimants the one posts everything before the
other posts anything. As long as nobody else brings a token or takes one away, the token
that is left in the end, in memory and in the store, is the one that was granted to the
claimant whose turn came last, whatever the others were granted. -/

namespace DeviceAuth

open Honest (CanWrite shelf)

/-! ## The token of a grant -/

/-- The token of a grant is held, and has been since a moment. It is no longer in memory only
if it was given up since it was stored, after too many failed refreshes. -/
structure Device.HoldsGrant {σ : Type} [Backend σ] [Honest σ] (grant : Claim.Grant)
    (moment : UInt32) (device : Device σ) : Prop where
  accessToken : (shelf device.store).look Cell.accessToken.location =
    some (Octets.ofText grant.accessToken)
  expiry : (shelf device.store).look Cell.tokenExpiry.location =
    some (Octets.ofWord (expiryAfter moment grant.lifetime))
  refreshToken : (shelf device.store).look Cell.refreshToken.location =
    some (Octets.ofText grant.refreshToken)
  memory : (∃ record, device.keeper.record = some record ∧ record.token = grant.accessToken ∧
      record.expiry = expiryAfter moment grant.lifetime) ∨
    device.keeper.record = none ∧
      ∃ attempts, .refreshExhausted attempts ∈ AuthEvent.sinceStored device.keeper.events

theorem Device.HoldsGrant.of_retains {σ : Type} [Backend σ] [Honest σ] {grant : Claim.Grant}
    {moment : UInt32} {device after : Device σ} (holds : device.HoldsGrant grant moment)
    (store : after.store = device.store) (retains : device.keeper.Retains after.keeper) :
    after.HoldsGrant grant moment := by
  obtain ⟨told, events, others, record⟩ := retains
  have since : AuthEvent.sinceStored after.keeper.events =
      AuthEvent.sinceStored device.keeper.events ++ told := by
    rw [events, AuthEvent.sinceStored_append others]
  constructor
  case accessToken => rw [store, holds.accessToken]
  case expiry => rw [store, holds.expiry]
  case refreshToken => rw [store, holds.refreshToken]
  case memory =>
    rw [since]
    rcases record with same | ⟨missing, attempts, exhausted⟩
    · rw [same]
      refine holds.memory.imp id ?_
      rintro ⟨missing, attempts, exhausted⟩
      exact ⟨missing, attempts, List.mem_append_left told exhausted⟩
    · exact .inr ⟨missing, attempts, List.mem_append_right _ exhausted⟩

namespace Claimant

def Stage.hasPosted : Stage → Bool
  | .posted _ => true
  | .resting _ => true
  | .holding _ _ => true
  | .scheduling => true
  | .confirming => true
  | .ended (.ok ()) => true
  | _ => false

def Stage.hasHeld : Stage → Bool
  | .scheduling => true
  | .confirming => true
  | .ended (.ok ()) => true
  | _ => false

variable {σ : Type} [Backend σ] [Honest σ] {claimant next : Claimant} {device after : Device σ}

/-- What a claimant that had the last turn has done on a device so far. -/
structure Progress (device : Device σ) (claimant : Claimant) : Prop where
  granted : ∀ grant ids, claimant.stage = .holding grant ids → claimant.IsGranted grant ∧
    (grant.Fits → (shelf device.store).look Cell.refreshToken.location =
      some (Octets.ofText grant.refreshToken))
  held : claimant.stage.hasHeld = true → ∃ grant moment, claimant.held = some (grant, moment) ∧
    claimant.IsGranted grant ∧ (grant.Fits → device.HoldsGrant grant moment)

theorem Progress.of_retains (progress : claimant.Progress device)
    (store : after.store = device.store) (retains : device.keeper.Retains after.keeper) :
    claimant.Progress after where
  granted grant ids comes := by
    rw [store]
    exact progress.granted grant ids comes
  held has := by
    obtain ⟨grant, moment, held, granted, holds⟩ := progress.held has
    exact ⟨grant, moment, held, granted, fun fits => (holds fits).of_retains store retains⟩

theorem Progress.of_early (noGrant : ∀ grant ids, claimant.stage ≠ .holding grant ids)
    (notHeld : claimant.stage.hasHeld = false) : claimant.Progress device where
  granted grant ids comes := absurd comes (noGrant grant ids)
  held has := by
    rw [notHeld] at has
    cases has

variable {id : Nat} {posts : List Post}

theorem Advances.canWrite (advances : Advances id claimant device next after posts)
    (canWrite : CanWrite device.store) : CanWrite after.store := by
  have used : ∀ {changed : Device σ}, device.Uses changed → CanWrite changed.store := by
    rintro changed ⟨_, program, store⟩
    rw [store]
    exact Honest.canWrite_run program canWrite
  cases advances with
  | fail outcome failure uses => exact used uses
  | post effort request uses => exact used uses
  | rest comes outcome effort uses => exact used uses
  | keep comes means given ids store =>
      rw [store]
      exact Honest.canWrite_run _ (Honest.canWrite_run _ canWrite)
  | hold comes token expiry => exact Honest.canWrite_run _ canWrite
  | schedule comes => exact canWrite
  | confirm comes => exact canWrite
  | drop => exact canWrite

theorem progress_keep (canWrite : CanWrite device.store) {outcome : Claim.Outcome}
    {grant : Claim.Grant} (means : outcome.grant = .ok grant) (settings : Settings)
    (address : Address) (ids : String × String)
    (store : after.store = ((Device.tokenIds address).run
      ((grant.keep settings).perform device.store).2).2) :
    Progress after { claimant with outcome := some outcome, stage := .holding grant ids } where
  granted kept keptIds comes := by
    obtain ⟨rfl, rfl⟩ := Stage.holding.inj comes
    refine ⟨⟨outcome, rfl, means⟩, ?_⟩
    intro fits
    have alone := (Device.staysWithin_tokenIds address).leavesAlone
      (show Cell.refreshToken.location.space ≠ Cell.credentials by decide)
    rw [store, Honest.look_run alone]
    exact grant.look_refreshToken_keep canWrite fits settings
  held has := by cases has

theorem Progress.hold (progress : claimant.Progress device) (canWrite : CanWrite device.store)
    {grant : Claim.Grant} {ids : String × String} (comes : claimant.stage = .holding grant ids)
    {record : TokenRecord} (token : record.token = grant.accessToken)
    (expiry : record.expiry = expiryAfter device.now grant.lifetime) :
    Progress { device with
        store := ((Credentials.saveRecord record).perform device.store).2
        keeper := (device.keeper.replace device.settings device.now record).emit
          (.tokenStored record.expiry) }
      { claimant with held := some (grant, device.now), stage := .scheduling } where
  granted _ _ comes := by cases comes
  held _ := by
    obtain ⟨granted, kept⟩ := progress.granted grant ids comes
    refine ⟨grant, device.now, rfl, granted, fun fits => ?_⟩
    have small : record.token.utf8ByteSize ≤ Backend.greatestValue := token ▸ fits.accessToken
    constructor
    case accessToken =>
      rw [← token]
      exact Credentials.look_accessToken_saveRecord canWrite small
    case expiry =>
      rw [← expiry]
      exact Credentials.look_tokenExpiry_saveRecord canWrite small
    case refreshToken =>
      exact (Honest.look_run (Credentials.leavesAlone_saveRecord record) _).trans (kept fits)
    case memory => exact .inl ⟨record, rfl, token, expiry⟩

theorem Advances.progress (advances : Advances id claimant device next after posts)
    (progress : claimant.Progress device) (canWrite : CanWrite device.store) :
    next.Progress after := by
  cases advances with
  | fail => exact .of_early nofun rfl
  | post => exact .of_early nofun rfl
  | rest => exact .of_early nofun rfl
  | keep comes means given ids store => exact progress_keep canWrite means _ _ ids store
  | hold comes token expiry => exact progress.hold canWrite comes token expiry
  | schedule comes =>
      have held := progress.held (by rw [comes]; rfl)
      have same : Progress device { claimant with stage := .confirming } :=
        ⟨nofun, fun _ => held⟩
      exact same.of_retains rfl (Keeper.retains_schedule _ _ _)
  | confirm comes =>
      have held := progress.held (by rw [comes]; rfl)
      have same : Progress device { claimant with stage := .ended (.ok ()) } :=
        ⟨nofun, fun _ => held⟩
      exact same.of_retains rfl (.emit rfl rfl rfl)
  | drop => exact .of_early nofun rfl

omit [Honest σ] in
theorem Advances.hasPosted (advances : Advances id claimant device next after posts)
    (has : next.stage.hasPosted = true) :
    claimant.stage.hasPosted = true ∨ ∃ post ∈ posts, post.claimant = id := by
  cases advances with
  | fail => cases has
  | post effort request => exact .inr ⟨_, .head [], rfl⟩
  | rest comes => exact .inl (by rw [comes]; rfl)
  | keep comes => exact .inl (by rw [comes]; rfl)
  | hold comes => exact .inl (by rw [comes]; rfl)
  | schedule comes => exact .inl (by rw [comes]; rfl)
  | confirm comes => exact .inl (by rw [comes]; rfl)
  | drop => cases has

end Claimant

namespace Claimants

open Claimant (Piece Progress)

def Move.IsQuiet {σ : Type} : Move σ → Prop
  | .other move => move.IsQuiet
  | _ => True

variable {σ : Type} [Backend σ] [Honest σ] {claimants after : Claimants σ} {id : Nat}
  {claimant : Claimant}

/-- What holds as long as writes succeed and all moves are quiet. -/
structure Settled (claimants : Claimants σ) : Prop where
  orderly : claimants.Orderly
  canWrite : CanWrite claimants.device.store
  progress : ∀ id claimant, claimants.turns.getLast? = some id →
    claimants.members id = some claimant → claimant.Progress claimants.device
  posted : ∀ id claimant, claimants.members id = some claimant →
    claimant.stage.hasPosted = true → ∃ post ∈ claimants.posts, post.claimant = id

theorem settled_start {activity : Activity σ} (canWrite : CanWrite activity.device.store) :
    (start activity).Settled where
  orderly := orderly_start activity
  canWrite := canWrite
  progress _ _ last := by cases last
  posted _ _ member := by cases member

theorem HeldBy.settled (held : claimants.HeldBy id)
    (member : claimants.members id = some claimant)
    (canWrite : CanWrite claimants.device.store) (progress : claimant.Progress claimants.device)
    (posted : ∀ other claimant, claimants.members other = some claimant →
      claimant.stage.hasPosted = true → ∃ post ∈ claimants.posts, post.claimant = other)
    (advanced : Advanced id claimant claimants.device claimants after) : after.Settled := by
  have orderly := held.advanced advanced
  obtain ⟨next, changed, posts, advances, rfl⟩ := advanced
  constructor
  case orderly => exact orderly
  case canWrite => exact advances.canWrite canWrite
  case progress =>
    intro last lastClaimant isLast present
    obtain rfl : id = last := Option.some.inj (held.last.symm.trans isLast)
    obtain ⟨-, rfl⟩ | ⟨different, _⟩ := of_members_setMember id next present
    · exact advances.progress progress canWrite
    · exact absurd rfl different
  case posted =>
    intro other otherClaimant present has
    have old : (∃ post ∈ claimants.posts, post.claimant = other) ∨
        ∃ post ∈ posts, post.claimant = other := by
      rcases of_members_setMember id next present with ⟨rfl, rfl⟩ | ⟨_, old⟩
      · exact (advances.hasPosted has).imp_left (posted other claimant member)
      · exact .inl (posted other otherClaimant old has)
    rcases old with ⟨post, present, own⟩ | ⟨post, present, own⟩
    · exact ⟨post, List.mem_append_left posts present, own⟩
    · exact ⟨post, List.mem_append_right _ present, own⟩

namespace Settled

theorem of_retains (settled : claimants.Settled) (activity : Activity σ)
    (store : activity.device.store = claimants.device.store)
    (retains : claimants.device.keeper.Retains activity.keeper) :
    Settled { claimants with activity := activity } where
  orderly := settled.orderly.of_device activity
  canWrite := by
    show CanWrite activity.device.store
    rw [store]
    exact settled.canWrite
  progress id claimant last member :=
    (settled.progress id claimant last member).of_retains store retains
  posted := settled.posted

theorem setMember (settled : claimants.Settled) {next : Claimant}
    (idle : next.stage.isUnderWay = false) (nothing : next.stage.hasPosted = false)
    (noTurn : id ∉ claimants.turns) {nextMember : Nat} (bound : id < nextMember)
    (grown : claimants.nextMember ≤ nextMember) :
    Settled { claimants.setMember id next with nextMember := nextMember } where
  orderly := settled.orderly.setMember idle noTurn bound grown
  canWrite := settled.canWrite
  progress last claimant isLast present := by
    rcases of_members_setMember id next present with ⟨rfl, _⟩ | ⟨_, old⟩
    · exact absurd (List.mem_of_getLast? isLast) noTurn
    · exact settled.progress last claimant isLast old
  posted other claimant present has := by
    rcases of_members_setMember id next present with ⟨rfl, rfl⟩ | ⟨_, old⟩
    · rw [nothing] at has
      cases has
    · exact settled.posted other claimant old has

theorem begin (settled : claimants.Settled) (code : String) (client : Client) :
    (claimants.begin code client).Settled := by
  have noTurn : claimants.nextMember ∉ claimants.turns := fun turn =>
    Nat.lt_irrefl _ (settled.orderly.known _ turn)
  unfold Claimants.begin
  cases claimants.device.admitClaim code with
  | ok => exact settled.setMember rfl rfl noTurn (Nat.lt_succ_self _) (Nat.le_succ _)
  | error failure => exact settled.setMember rfl rfl noTurn (Nat.lt_succ_self _) (Nat.le_succ _)

theorem go (settled : claimants.Settled) (member : claimants.members id = some claimant)
    (piece : Piece) : (claimants.go id piece claimant).Settled := by
  have orderly := settled.orderly
  have goes := goes_go (orderly.underWay id claimant member) piece
  generalize claimants.go id piece claimant = after at goes ⊢
  cases goes with
  | same => exact settled
  | take free waits advanced =>
      have early : claimant.Progress claimants.device :=
        .of_early (by rw [waits]; nofun) (by rw [waits]; rfl)
      exact (orderly.take free member waits).settled member settled.canWrite early settled.posted
        advanced
  | goOn underWay advanced =>
      have held := orderly.heldBy member underWay
      exact held.settled member settled.canWrite (settled.progress id claimant held.last member)
        settled.posted advanced
  | drop waits =>
      exact settled.setMember rfl rfl (orderly.waiting id claimant member waits)
        (orderly.lt_nextMember member) (Nat.le_refl _)

theorem step (settled : claimants.Settled) {move : Move σ} (quiet : move.IsQuiet) :
    (claimants.step move).Settled := by
  cases move with
  | other move =>
      exact settled.of_retains _ (Activity.store_step quiet) (Activity.retains_step quiet)
  | clock now => exact settled.of_retains _ rfl (.of_same rfl rfl)
  | chance random => exact settled.of_retains _ rfl (.of_same rfl rfl)
  | begin code client => exact settled.begin code client
  | go id piece =>
      simp only [Claimants.step]
      split
      next claimant member => exact settled.go member piece
      next => exact settled

theorem run (settled : claimants.Settled) {moves : List (Move σ)}
    (quiet : ∀ move ∈ moves, move.IsQuiet) : (claimants.run moves).Settled := by
  apply run_preserves Settled Move.IsQuiet
  · intro move claimants quiet settled
    exact settled.step quiet
  · exact quiet
  · exact settled

end Settled

/-- The token that was granted to a claimant is held, with the expiry that it has from the
moment when the claimant brought it. -/
def HoldsTokenOf (id : Nat) (claimants : Claimants σ) : Prop :=
  ∃ claimant grant moment, claimants.members id = some claimant ∧
    claimant.held = some (grant, moment) ∧ claimant.IsGranted grant ∧
    (grant.Fits → claimants.device.HoldsGrant grant moment)

/-- Of two claimants one has claimed after the other, and its token is held. -/
structure ClaimedLast (first last : Nat) (claimants : Claimants σ) : Prop where
  first_posted : claimants.postsOf first ≠ []
  last_posted : claimants.postsOf last ≠ []
  order : claimants.PostedBefore first last
  holds : claimants.HoldsTokenOf last

omit [Backend σ] [Honest σ] in
theorem stage_of_hasSucceeded (succeeded : claimants.hasSucceeded id = true) :
    ∃ claimant, claimants.members id = some claimant ∧ claimant.stage = .ended (.ok ()) := by
  obtain ⟨claimant, member, ended⟩ := (Option.any_eq_true _ _).mp succeeded
  refine ⟨claimant, member, ?_⟩
  unfold Claimant.hasSucceeded at ended
  split at ended
  next stage => exact stage
  next => cases ended

theorem Settled.postsOf_ne_nil (settled : claimants.Settled)
    (succeeded : claimants.hasSucceeded id = true) : claimants.postsOf id ≠ [] := by
  obtain ⟨claimant, member, ended⟩ := stage_of_hasSucceeded succeeded
  obtain ⟨post, posted, own⟩ := settled.posted id claimant member (by rw [ended]; rfl)
  exact List.ne_nil_of_mem (List.mem_filter.mpr ⟨posted, beq_iff_eq.mpr own⟩)

theorem Settled.mem_turns (settled : claimants.Settled)
    (succeeded : claimants.hasSucceeded id = true) : id ∈ claimants.turns := by
  obtain ⟨post, member⟩ := List.exists_mem_of_ne_nil _ (settled.postsOf_ne_nil succeeded)
  obtain ⟨posted, own⟩ := List.mem_filter.mp member
  rw [← beq_iff_eq.mp own]
  exact settled.orderly.inTurn.known post posted

theorem Settled.claimedLast (settled : claimants.Settled) {first last : Nat}
    (different : first ≠ last) (firstSucceeded : claimants.hasSucceeded first = true)
    (lastSucceeded : claimants.hasSucceeded last = true)
    (isLast : claimants.turns.getLast? = some last) : claimants.ClaimedLast first last where
  first_posted := settled.postsOf_ne_nil firstSucceeded
  last_posted := settled.postsOf_ne_nil lastSucceeded
  order := settled.orderly.postedBefore different
    (InTurn.idxOf_le_last settled.orderly.inTurn.nodup isLast (settled.mem_turns firstSucceeded))
  holds := by
    obtain ⟨claimant, member, ended⟩ := stage_of_hasSucceeded lastSucceeded
    have progress := settled.progress last claimant isLast member
    obtain ⟨grant, moment, held, granted, holds⟩ := progress.held (by rw [ended]; rfl)
    exact ⟨claimant, grant, moment, member, held, granted, holds⟩

omit [Honest σ] in
/-- Claims are serialized. Whatever happens, of any two claimants the one posts everything
before the other posts anything. If writes succeed, nobody but claimants brings a token or takes
one away, and both claims were successful and nobody else's came after them, then the token in
memory and in the store comes from the claimant that claimed last. -/
theorem serialized_run (activity : Activity σ) (moves : List (Move σ)) {one other : Nat}
    (different : one ≠ other) :
    (((start activity).run moves).PostedBefore one other ∨
      ((start activity).run moves).PostedBefore other one) ∧
    ∀ [Honest σ], CanWrite activity.device.store → (∀ move ∈ moves, move.IsQuiet) →
      ((start activity).run moves).hasSucceeded one = true →
      ((start activity).run moves).hasSucceeded other = true →
      (∀ last, ((start activity).run moves).turns.getLast? = some last →
        last = one ∨ last = other) →
      ((start activity).run moves).ClaimedLast one other ∨
        ((start activity).run moves).ClaimedLast other one := by
  have orderly := (orderly_start activity).run moves
  constructor
  case left =>
    rcases Nat.le_total (((start activity).run moves).turns.idxOf one)
      (((start activity).run moves).turns.idxOf other) with order | order
    · exact .inl (orderly.postedBefore different order)
    · exact .inr (orderly.postedBefore different.symm order)
  case right =>
    intro _ canWrite quiet oneSucceeded otherSucceeded latest
    have settled := (settled_start canWrite).run quiet
    -- Both have had a turn, so one of them had the last.
    have turned := List.ne_nil_of_mem (settled.mem_turns oneSucceeded)
    have isLast := List.getLast?_eq_some_getLast turned
    rcases latest _ isLast with isOne | isOther
    · rw [isOne] at isLast
      exact .inr (settled.claimedLast different.symm otherSucceeded oneSucceeded isLast)
    · rw [isOther] at isLast
      exact .inl (settled.claimedLast different oneSucceeded otherSucceeded isLast)

def exampleStart : Activity Memory :=
  (Activity.start {} ⟨[1, 2, 3, 4, 5, 6], rfl⟩ 1000 (List.replicate 64 7)
    { contents := Contents.empty.set Cell.childId.location (Octets.ofText "child-1") }).step .load

def exampleClient (version : String) : Client :=
  ⟨{ firmwareVersion := version }, ⟨[1, 2, 3, 4, 5, 6], rfl⟩⟩

def exampleAnswer (access refresh : String) : Claim.Outcome :=
  .ok ⟨200, Octets.ofText ("\x7b\"access_token\":\"" ++ access ++ "\",\"refresh_token\":\"" ++
    refresh ++ "\",\"expires_in\":900\x7d")⟩

def exampleMoves : List (Move Memory) :=
  [.begin "AB12CD" (exampleClient "1.0"), .go 0 .take, .begin "EF34GH" (exampleClient "2.0"),
    .go 1 .take, .go 0 (.judge (exampleAnswer "first" "again")), .go 1 .take, .go 0 .hold,
    .clock 1010, .go 0 .schedule, .go 0 .confirm, .go 1 .take,
    .go 1 (.judge (exampleAnswer "second" "anew")), .clock 1020, .go 1 .hold, .go 1 .schedule,
    .go 1 .confirm]

theorem serialized_example : ((start exampleStart).run exampleMoves).turns = [0, 1] ∧
    (((start exampleStart).run exampleMoves).ClaimedLast 0 1 ∨
      ((start exampleStart).run exampleMoves).ClaimedLast 1 0) := by
  have ran : ((start exampleStart).run exampleMoves).turns = [0, 1] ∧
      ((start exampleStart).run exampleMoves).hasSucceeded 0 = true ∧
        ((start exampleStart).run exampleMoves).hasSucceeded 1 = true := by decide +kernel
  obtain ⟨turns, firstSucceeded, secondSucceeded⟩ := ran
  have quiet : ∀ move ∈ exampleMoves, move.IsQuiet := by
    simp [exampleMoves, Move.IsQuiet]
  refine ⟨turns, (serialized_run exampleStart exampleMoves (by decide)).2 rfl quiet
    firstSucceeded secondSucceeded ?_⟩
  intro last isLast
  rw [turns] at isLast
  exact .inr (Option.some.inj isLast).symm

end Claimants

end DeviceAuth
