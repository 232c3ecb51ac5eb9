import DeviceAuth.Proofs.Claimants.Pieces

/-! Claimants take turns. Only whoever has the claim lock posts anything, and it keeps the
lock until its claim has come to an end. So what was posted stands in the order of the
turns: of any two claimants, everything of the one comes before everything of the other. -/

namespace DeviceAuth

namespace Claimants

open Claimant (Advances Piece)

variable {σ : Type} {claimants : Claimants σ} {id : Nat} {claimant : Claimant}

theorem filter_or_of_sorted {α : Type} {rank : α → Nat} {first second : α → Bool}
    {items : List α} (sorted : items.Pairwise fun left right => rank left ≤ rank right)
    (lower : ∀ left ∈ items, ∀ right ∈ items, first left → second right →
      rank left < rank right) :
    items.filter (fun item => first item || second item) =
      items.filter first ++ items.filter second := by
  induction items with
  | nil => rfl
  | cons item rest induction =>
      have sortedRest := (List.pairwise_cons.mp sorted).2
      have goesOn := induction sortedRest fun left leftIn right rightIn =>
        lower left (.tail item leftIn) right (.tail item rightIn)
      cases isSecond : second item with
      | false =>
          cases isFirst : first item with
          | false => simp [isFirst, isSecond, goesOn]
          | true => simp [isFirst, isSecond, goesOn]
      | true =>
          -- Nothing that ranks lower is left.
          have none : ∀ left ∈ item :: rest, ¬ first left = true := by
            intro left leftIn isFirst
            have less := lower left leftIn item (.head rest) isFirst isSecond
            rcases List.mem_cons.mp leftIn with rfl | later
            · omega
            · have order := (List.pairwise_cons.mp sorted).1 left later
              omega
          have empty : rest.filter first = [] :=
            List.filter_eq_nil_iff.mpr fun left later => none left (.tail item later)
          rw [empty] at goesOn
          simp [none item (.head rest), isSecond, empty, goesOn]

def PostedBefore (first second : Nat) (claimants : Claimants σ) : Prop :=
  (claimants.posts.filter fun post => post.claimant == first || post.claimant == second) =
    claimants.postsOf first ++ claimants.postsOf second

/-- The posts are in the order of the turns in which they were made. -/
structure InTurn (turns : List Nat) (posts : List Post) : Prop where
  nodup : turns.Nodup
  known : ∀ post ∈ posts, post.claimant ∈ turns
  sorted : posts.Pairwise fun earlier later =>
    turns.idxOf earlier.claimant ≤ turns.idxOf later.claimant

namespace InTurn

variable {turns : List Nat} {posts : List Post}

theorem take (inTurn : InTurn turns posts) (new : id ∉ turns) : InTurn (turns ++ [id]) posts where
  nodup := by
    rw [← List.concat_eq_append, List.nodup_concat]
    exact ⟨new, inTurn.nodup⟩
  known post member := List.mem_append_left [id] (inTurn.known post member)
  sorted := by
    apply inTurn.sorted.imp_of_mem
    intro earlier later earlierIn laterIn order
    rw [List.idxOf_append_of_mem (inTurn.known _ earlierIn),
      List.idxOf_append_of_mem (inTurn.known _ laterIn)]
    exact order

theorem idxOf_le_last (nodup : turns.Nodup) (last : turns.getLast? = some id) {turn : Nat}
    (member : turn ∈ turns) : turns.idxOf turn ≤ turns.idxOf id := by
  obtain ⟨earlier, rfl⟩ := List.getLast?_eq_some_iff.mp last
  rw [← List.concat_eq_append, List.nodup_concat] at nodup
  have bound := List.idxOf_lt_length_iff.mpr member
  rw [List.length_append, List.length_singleton] at bound
  rw [List.idxOf_append_of_notMem nodup.1, List.idxOf_cons_self]
  omega

theorem post (inTurn : InTurn turns posts) (last : turns.getLast? = some id) {added : List Post}
    (own : ∀ post ∈ added, post.claimant = id) : InTurn turns (posts ++ added) where
  nodup := inTurn.nodup
  known post member := by
    rcases List.mem_append.mp member with old | new
    · exact inTurn.known post old
    · rw [own post new]
      exact List.mem_of_getLast? last
  sorted := by
    rw [List.pairwise_append]
    refine ⟨inTurn.sorted, ?_, ?_⟩
    · apply List.pairwise_of_forall_mem_list
      intro left leftIn right rightIn
      exact Nat.le_of_eq (by rw [own left leftIn, own right rightIn])
    · intro left leftIn right rightIn
      rw [own right rightIn]
      exact idxOf_le_last inTurn.nodup last (inTurn.known left leftIn)

end InTurn

/-! ## What a claimant knows that has the claim lock -/

/-- A claimant has the claim lock, and nobody else's claim is under way. -/
structure HeldBy (id : Nat) (claimants : Claimants σ) : Prop where
  locked : claimants.lock = some id
  last : claimants.turns.getLast? = some id
  inTurn : InTurn claimants.turns claimants.posts
  known : ∀ turn ∈ claimants.turns, turn < claimants.nextMember
  fresh : ∀ new, claimants.nextMember ≤ new → claimants.members new = none
  others : ∀ other claimant, other ≠ id → claimants.members other = some claimant →
    claimant.stage.isUnderWay = false ∧ (claimant.stage = .waiting → other ∉ claimants.turns)

/-- Claims are under way one at a time, and those that wait had no turn yet. -/
structure Orderly (claimants : Claimants σ) : Prop where
  inTurn : InTurn claimants.turns claimants.posts
  known : ∀ turn ∈ claimants.turns, turn < claimants.nextMember
  fresh : ∀ new, claimants.nextMember ≤ new → claimants.members new = none
  last : ∀ id, claimants.lock = some id → claimants.turns.getLast? = some id
  underWay : ∀ id claimant, claimants.members id = some claimant →
    claimant.stage.isUnderWay = true → claimants.lock = some id
  waiting : ∀ id claimant, claimants.members id = some claimant → claimant.stage = .waiting →
    id ∉ claimants.turns

theorem orderly_start (activity : Activity σ) : (start activity).Orderly where
  inTurn := ⟨.nil, nofun, .nil⟩
  known _ member := by cases member
  fresh _ _ := rfl
  last _ locked := by cases locked
  underWay _ _ member := by cases member
  waiting _ _ member := by cases member

theorem members_setMember_same (id : Nat) (claimant : Claimant) (claimants : Claimants σ) :
    (claimants.setMember id claimant).members id = some claimant := if_pos rfl

theorem members_setMember_other {id other : Nat} (different : other ≠ id) (claimant : Claimant)
    (claimants : Claimants σ) :
    (claimants.setMember id claimant).members other = claimants.members other :=
  if_neg different

theorem of_members_setMember (id : Nat) (next : Claimant) {other : Nat}
    (present : (claimants.setMember id next).members other = some claimant) :
    other = id ∧ claimant = next ∨ other ≠ id ∧ claimants.members other = some claimant := by
  by_cases same : other = id
  · rw [same, members_setMember_same] at present
    exact .inl ⟨same, (Option.some.inj present).symm⟩
  · rw [members_setMember_other same] at present
    exact .inr ⟨same, present⟩

theorem HeldBy.advance (held : claimants.HeldBy id) {next : Claimant}
    (begun : next.stage ≠ .waiting) (device : Device σ) {posts : List Post}
    (own : ∀ post ∈ posts, post.claimant = id) :
    (claimants.advance id next device posts).Orderly where
  inTurn := held.inTurn.post held.last own
  known := held.known
  fresh new late := by
    refine (members_setMember_other ?_ next _).trans (held.fresh new late)
    have bound := held.known id (List.mem_of_getLast? held.last)
    exact Nat.ne_of_gt (Nat.lt_of_lt_of_le bound late)
  last other locked := by
    have same : other = id := by
      by_cases underWay : next.stage.isUnderWay = true
      · simpa [Claimants.advance, underWay] using locked.symm
      · simp [Claimants.advance, underWay] at locked
    rw [same]
    exact held.last
  underWay other claimant present underWay := by
    rcases of_members_setMember id next present with ⟨rfl, rfl⟩ | ⟨different, old⟩
    · exact if_pos underWay
    · rw [(held.others other claimant different old).1] at underWay
      cases underWay
  waiting other claimant present waits := by
    rcases of_members_setMember id next present with ⟨rfl, rfl⟩ | ⟨different, old⟩
    · exact absurd waits begun
    · exact (held.others other claimant different old).2 waits

namespace Orderly

theorem lt_nextMember (orderly : claimants.Orderly)
    (member : claimants.members id = some claimant) : id < claimants.nextMember := by
  by_contra late
  rw [orderly.fresh id (Nat.le_of_not_lt late)] at member
  cases member

theorem heldBy (orderly : claimants.Orderly) (member : claimants.members id = some claimant)
    (underWay : claimant.stage.isUnderWay = true) : claimants.HeldBy id where
  locked := orderly.underWay id claimant member underWay
  last := orderly.last id (orderly.underWay id claimant member underWay)
  inTurn := orderly.inTurn
  known := orderly.known
  fresh := orderly.fresh
  others other otherClaimant different present := by
    refine ⟨?_, orderly.waiting other otherClaimant present⟩
    by_contra busy
    have locked := orderly.underWay other otherClaimant present (by simpa using busy)
    rw [orderly.underWay id claimant member underWay] at locked
    exact different (Option.some.inj locked).symm

theorem take (orderly : claimants.Orderly) (free : claimants.lock = none)
    (member : claimants.members id = some claimant) (waits : claimant.stage = .waiting) :
    HeldBy id { claimants with lock := some id, turns := claimants.turns ++ [id] } where
  locked := rfl
  last := by simp
  inTurn := orderly.inTurn.take (orderly.waiting id claimant member waits)
  known turn present := by
    rcases List.mem_append.mp present with old | new
    · exact orderly.known turn old
    · obtain rfl := List.mem_singleton.mp new
      exact orderly.lt_nextMember member
  fresh := orderly.fresh
  others other otherClaimant different present := by
    constructor
    · by_contra busy
      have locked := orderly.underWay other otherClaimant present (by simpa using busy)
      rw [free] at locked
      cases locked
    · intro waitsToo turn
      rcases List.mem_append.mp turn with old | new
      · exact orderly.waiting other otherClaimant present waitsToo old
      · exact different (List.mem_singleton.mp new)

theorem of_device (orderly : claimants.Orderly) (activity : Activity σ) :
    Orderly { claimants with activity := activity } where
  inTurn := orderly.inTurn
  known := orderly.known
  fresh := orderly.fresh
  last := orderly.last
  underWay := orderly.underWay
  waiting := orderly.waiting

theorem setMember (orderly : claimants.Orderly) {next : Claimant}
    (idle : next.stage.isUnderWay = false) (noTurn : id ∉ claimants.turns) {nextMember : Nat}
    (bound : id < nextMember) (grown : claimants.nextMember ≤ nextMember) :
    Orderly { claimants.setMember id next with nextMember := nextMember } where
  inTurn := orderly.inTurn
  known turn present := Nat.lt_of_lt_of_le (orderly.known turn present) grown
  fresh new late := by
    refine (members_setMember_other ?_ next claimants).trans
      (orderly.fresh new (Nat.le_trans grown late))
    exact Nat.ne_of_gt (Nat.lt_of_lt_of_le bound late)
  last := orderly.last
  underWay other claimant present busy := by
    rcases of_members_setMember id next present with ⟨rfl, rfl⟩ | ⟨_, old⟩
    · rw [idle] at busy
      cases busy
    · exact orderly.underWay other claimant old busy
  waiting other claimant present waits := by
    rcases of_members_setMember id next present with ⟨rfl, _⟩ | ⟨_, old⟩
    · exact noTurn
    · exact orderly.waiting other claimant old waits

end Orderly

theorem Orderly.postedBefore (orderly : claimants.Orderly) {first second : Nat}
    (different : first ≠ second)
    (order : claimants.turns.idxOf first ≤ claimants.turns.idxOf second) :
    claimants.PostedBefore first second := by
  apply filter_or_of_sorted orderly.inTurn.sorted
  intro left leftIn right _ isFirst isSecond
  obtain rfl := beq_iff_eq.mp isFirst
  obtain rfl := beq_iff_eq.mp isSecond
  apply Nat.lt_of_le_of_ne order
  intro equal
  exact different ((List.idxOf_inj (orderly.inTurn.known left leftIn)).mp equal)

/-! ## Runs -/

variable [Backend σ]

theorem HeldBy.advanced (held : claimants.HeldBy id) {device : Device σ} {after : Claimants σ}
    (advanced : Advanced id claimant device claimants after) : after.Orderly := by
  obtain ⟨next, changed, posts, advances, rfl⟩ := advanced
  exact held.advance advances.begun changed advances.own

omit [Backend σ] in
theorem Orderly.begin (orderly : claimants.Orderly) (code : String) (client : Client) :
    (claimants.begin code client).Orderly := by
  have noTurn : claimants.nextMember ∉ claimants.turns := fun turn =>
    Nat.lt_irrefl _ (orderly.known _ turn)
  apply orderly.setMember _ noTurn (Nat.lt_succ_self _) (Nat.le_succ _)
  cases claimants.device.admitClaim code with
  | ok => rfl
  | error failure => rfl

theorem Orderly.go (orderly : claimants.Orderly)
    (member : claimants.members id = some claimant) (piece : Piece) :
    (claimants.go id piece claimant).Orderly := by
  have goes := goes_go (orderly.underWay id claimant member) piece
  generalize claimants.go id piece claimant = after at goes ⊢
  cases goes with
  | same => exact orderly
  | take free waits advanced => exact (orderly.take free member waits).advanced advanced
  | goOn underWay advanced => exact (orderly.heldBy member underWay).advanced advanced
  | drop waits =>
      exact orderly.setMember rfl (orderly.waiting id claimant member waits)
        (orderly.lt_nextMember member) (Nat.le_refl _)

theorem Orderly.step (orderly : claimants.Orderly) (move : Move σ) :
    (claimants.step move).Orderly := by
  cases move with
  | other move => exact orderly.of_device _
  | clock now => exact orderly.of_device _
  | chance random => exact orderly.of_device _
  | begin code client => exact orderly.begin code client
  | go id piece =>
      simp only [Claimants.step]
      split
      next claimant member => exact orderly.go member piece
      next => exact orderly

theorem run_preserves (Holds : Claimants σ → Prop) (Allowed : Move σ → Prop)
    (step : ∀ move claimants, Allowed move → Holds claimants → Holds (claimants.step move))
    {moves : List (Move σ)} (allowed : ∀ move ∈ moves, Allowed move) (holds : Holds claimants) :
    Holds (claimants.run moves) := by
  induction moves generalizing claimants with
  | nil => exact holds
  | cons move rest induction =>
      apply induction fun other member => allowed other (.tail move member)
      exact step move claimants (allowed move (.head rest)) holds

theorem Orderly.run (orderly : claimants.Orderly) (moves : List (Move σ)) :
    (claimants.run moves).Orderly := by
  apply run_preserves Orderly fun _ => True
  · intro move claimants _ orderly
    exact orderly.step move
  · exact fun _ _ => trivial
  · exact orderly

end Claimants

end DeviceAuth
