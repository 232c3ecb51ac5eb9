import DeviceAuth.Proofs.Storage.PowerCuts

/-! Provisioning that is interrupted. The child and the pairing code are committed before the
network is written, so wherever the power goes, a device that finds a network has all of the
details. Saving the details once more leaves what it would have left in the first place. -/

namespace DeviceAuth

theorem Action.forwards_get (location : Location) : Forwards (get location) :=
  fun _ => ⟨fun ⟨found, done⟩ => ⟨⟨found, done⟩, trivial⟩, fun ⟨found, _⟩ => found⟩

theorem Action.forwards_pure {α : Type} (value : α) : Forwards (pure value : Action α) :=
  fun _ => ⟨fun _ => trivial, fun _ => ⟨value, rfl⟩⟩

namespace Honest

open DeviceAuth.Action (Forwards)

variable {α σ : Type} [Backend σ] [Honest σ] {store : σ} {action : Action α}

theorem perform_of_ok (forwards : Forwards action) {value : α}
    (succeeded : (action.perform store).1 = .ok value) :
    (action.perform (shelf store)).1 = .ok value ∧
      shelf (action.perform store).2 = (action.perform (shelf store)).2 := by
  have ran := run_of_noneFails action.run ((forwards store).mp ⟨value, succeeded⟩)
  exact ⟨ran.1.symm.trans succeeded, ran.2⟩

theorem perform_of_can (forwards : Forwards action) (canRead : CanRead store)
    (canWrite : CanWrite store) {value : α}
    (ideal : (action.perform (shelf store)).1 = .ok value) :
    (action.perform store).1 = .ok value := by
  have noneFails := noneFails_of_can action.run canRead canWrite
    ((forwards (shelf store)).mp ⟨value, ideal⟩)
  exact (run_of_noneFails action.run noneFails).1.trans ideal

end Honest

namespace Credentials

open DeviceAuth.Action (Forwards forwards_get forwards_set forwards_commit forwards_pure
  WritesWithin writesWithin_commit perform_bind_of_ok perform_bind_ok)
open Cell (writesWithin_write)

/-! ## Whether a device is provisioned -/

theorem forwards_isProvisioned : Forwards isProvisioned := by
  apply Forwards.bind (forwards_get _)
  intro network
  cases network with
  | none => exact forwards_pure false
  | some octets =>
      apply Forwards.bind (forwards_get _)
      intro code
      exact forwards_pure code.isSome

theorem perform_isProvisioned (shelf : Shelf) : isProvisioned.perform shelf =
    (.ok ((shelf.look Cell.network.location).isSome &&
      (shelf.look Cell.pairingCode.location).isSome), shelf) := by
  have read (cell : Cell) : cell.read.perform shelf = (.ok (shelf.look cell.location), shelf) :=
    rfl
  unfold isProvisioned
  rw [perform_bind_of_ok (read .network)]
  cases shelf.look Cell.network.location with
  | none => rfl
  | some octets =>
      dsimp only
      rw [perform_bind_of_ok (read .pairingCode)]
      rfl

theorem isProvisioned_of_ok {σ : Type} [Backend σ] [Honest σ] {store : σ} {answer : Bool}
    (answered : (isProvisioned.perform store).1 = .ok answer) :
    answer = (((Honest.shelf store).look Cell.network.location).isSome &&
      ((Honest.shelf store).look Cell.pairingCode.location).isSome) := by
  have ideal := (Honest.perform_of_ok forwards_isProvisioned answered).1
  rw [perform_isProvisioned] at ideal
  exact (Except.ok.inj ideal).symm

/-! ## Provisioning that is interrupted -/

def savePairing (details : Details) : Action Unit := do
  Cell.childId.writeText details.childId
  Cell.pairingCode.writeText details.pairingCode
  Cell.childAge.write (ageOctets details.childAge)
  Action.commit Cell.credentials

theorem saveDetails_eq (details : Details) :
    saveDetails details = (savePairing details >>= fun _ => saveNetwork details.network) := by
  simp only [saveDetails, savePairing, bind_assoc]

def NetworkMissing (before : Shelf) (location : Location) (value : Option Octets) : Prop :=
  (location = Cell.network.location → value = none) ∧
    ((∀ cell ∈ detailsCells, location ≠ cell.location) → value = before.look location)

def PairingStored (details : Details) (before : Shelf) (location : Location)
    (value : Option Octets) : Prop :=
  value = (putDetails details before).look location ∨
    location = Cell.network.location ∧ value = none

def earlyCells : List Cell := [.childId, .pairingCode, .childAge]

section Saving

variable {details : Details} {before shelf left : Shelf}

theorem look_putDetails_of_mem {cell : Cell} (member : cell ∈ detailsCells) :
    (putDetails details before).look cell.location =
      (putDetails details shelf).look cell.location := by
  revert cell
  simp only [detailsCells, List.forall_mem_cons]
  exact ⟨rfl, rfl, rfl, rfl, List.forall_mem_nil _⟩

theorem putDetails_congr
    (same : ∀ location, (∀ cell ∈ detailsCells, location ≠ cell.location) →
      left.look location = before.look location) :
    putDetails details left = putDetails details before := by
  apply Shelf.eq_of_look
  intro location
  by_cases other : ∀ cell ∈ detailsCells, location ≠ cell.location
  · rw [look_putDetails_other details left other, look_putDetails_other details before other]
    exact same location other
  · simp only [not_forall, not_not] at other
    obtain ⟨cell, member, rfl⟩ := other
    exact look_putDetails_of_mem member

theorem pairingStored_of_look (missing : shelf.Within (NetworkMissing before))
    (stored : ∀ cell ∈ earlyCells,
      shelf.look cell.location = (putDetails details before).look cell.location) :
    shelf.Within (PairingStored details before) := by
  intro location
  by_cases other : ∀ cell ∈ detailsCells, location ≠ cell.location
  · left
    rw [look_putDetails_other details before other]
    exact (missing location).2 other
  · simp only [not_forall, not_not] at other
    obtain ⟨cell, member, rfl⟩ := other
    by_cases last : cell = .network
    · subst last
      exact .inr ⟨rfl, (missing Cell.network.location).1 rfl⟩
    · have early : ∀ cell ∈ detailsCells, cell ≠ .network → cell ∈ earlyCells := by decide
      exact .inl (stored cell (early cell member last))

theorem writesWithin_savePairing {allowed : Location → Option Octets → Prop}
    (childId : allowed Cell.childId.location (some (Octets.ofText details.childId)))
    (pairingCode : allowed Cell.pairingCode.location (some (Octets.ofText details.pairingCode)))
    (childAge : allowed Cell.childAge.location (some (ageOctets details.childAge))) :
    (savePairing details).WritesWithin allowed := by
  apply (writesWithin_write childId).bind
  intro _
  apply (writesWithin_write pairingCode).bind
  intro _
  apply (writesWithin_write childAge).bind
  intro _
  exact writesWithin_commit _

theorem writesWithin_savePairing_missing :
    (savePairing details).WritesWithin (NetworkMissing before) := by
  have fine {cell : Cell} (member : cell ∈ detailsCells) (other : cell ≠ .network)
      (value : Option Octets) : NetworkMissing before cell.location value :=
    ⟨fun same => absurd (Cell.location_injective same) other,
      fun none => absurd rfl (none cell member)⟩
  exact writesWithin_savePairing (fine (by decide) (by decide) _) (fine (by decide) (by decide) _)
    (fine (by decide) (by decide) _)

theorem writesWithin_savePairing_stored :
    (savePairing details).WritesWithin (PairingStored details before) :=
  writesWithin_savePairing (.inl rfl) (.inl rfl) (.inl rfl)

theorem writesWithin_saveNetwork_stored :
    (saveNetwork details.network).WritesWithin (PairingStored details before) := by
  apply (writesWithin_write (.inl rfl)).bind
  intro _
  exact writesWithin_commit _

theorem forwards_savePairing : Forwards (savePairing details) := by
  apply Forwards.bind (forwards_set _ _)
  intro _
  apply Forwards.bind (forwards_set _ _)
  intro _
  apply Forwards.bind (forwards_set _ _)
  intro _
  exact forwards_commit _

theorem look_savePairing (ok : details.check = .ok ()) {cell : Cell} (other : cell ≠ .network) :
    ((savePairing details).perform shelf).2.look cell.location =
      (putDetails details shelf).look cell.location := by
  have saved := perform_saveDetails ok shelf
  rw [saveDetails_eq] at saved
  obtain ⟨_, middle, first, second⟩ := perform_bind_ok saved
  have alone : Action.LeavesAlone cell.location (saveNetwork details.network) :=
    Cell.writesOnly_save .network _ _ cell fun member => other (List.mem_singleton.mp member)
  have kept := Honest.look_run alone middle
  change (Prod.snd ((saveNetwork details.network).perform middle)).look cell.location =
    middle.look cell.location at kept
  rw [second] at kept
  rw [first]
  exact kept.symm

variable {σ : Type} [Backend σ] [Honest σ]

theorem durable_savePairing {buffered : Buffered σ}
    (saved : ((savePairing details).perform buffered).1 = .ok ()) {cell : Cell}
    (member : cell ∈ earlyCells) :
    ((savePairing details).perform buffered).2.durable.look cell.location =
      (Honest.shelf ((savePairing details).perform buffered).2).look cell.location := by
  have inSpace : ∀ cell ∈ earlyCells, cell.location.space = Cell.credentials := by decide
  have performed : (savePairing details).perform buffered =
      (.ok (), ((savePairing details).perform buffered).2) := Prod.ext saved rfl
  obtain ⟨_, _, _, rest⟩ := perform_bind_ok performed
  obtain ⟨_, _, _, rest⟩ := perform_bind_ok rest
  obtain ⟨_, last, _, committed⟩ := perform_bind_ok rest
  rw [Action.perform_commit] at committed
  have durable := Buffered.look_durable_commit (congrArg Prod.fst committed)
    (inSpace cell member)
  rw [committed] at durable
  exact durable

theorem within_savePairing (ok : details.check = .ok ()) {buffered : Buffered σ}
    (missing : buffered.Within (NetworkMissing before))
    (saved : ((savePairing details).perform buffered).1 = .ok ()) :
    ((savePairing details).perform buffered).2.Within (PairingStored details before) := by
  have still : ((savePairing details).perform buffered).2.Within (NetworkMissing before) :=
    Program.WritesWithin.run writesWithin_savePairing_missing missing
  have stored : ∀ cell ∈ earlyCells,
      (Honest.shelf ((savePairing details).perform buffered).2).look cell.location =
        (putDetails details before).look cell.location := by
    intro cell member
    have early : ∀ cell ∈ earlyCells, cell ∈ detailsCells ∧ cell ≠ .network := by decide
    obtain ⟨part, other⟩ := early cell member
    rw [(Honest.perform_of_ok forwards_savePairing saved).2, look_savePairing ok other]
    exact look_putDetails_of_mem part
  refine ⟨pairingStored_of_look still.current stored, pairingStored_of_look still.durable ?_⟩
  intro cell member
  rw [durable_savePairing saved member]
  exact stored cell member

/-- A shelf on which details were at most being saved. -/
def Underway (details : Details) (before shelf : Shelf) : Prop :=
  shelf.Within (NetworkMissing before) ∨ shelf.Within (PairingStored details before)

/-- An attempt to save the details leaves a shelf on which they were being saved, wherever it
stops and whatever is lost. -/
theorem underway_attempt (ok : details.check = .ok ()) {store : σ} {after : Buffered σ}
    (underway : Underway details before (Honest.shelf store))
    (stops : (saveDetails details).Stops (Buffered.settled store) after)
    (mayLeave : after.MayLeave left) : Underway details before left := by
  rw [saveDetails_eq] at stops
  rcases underway with missing | stored
  · have start := Buffered.within_settled missing
    rcases stops.of_bind with early | ⟨_, saved, late⟩
    · have writes : (savePairing details).WritesWithin (NetworkMissing before) :=
        writesWithin_savePairing_missing
      exact .inl ((Program.WritesWithin.stops writes start early).left mayLeave)
    · have middle := within_savePairing ok start saved
      have writes : (saveNetwork details.network).WritesWithin (PairingStored details before) :=
        writesWithin_saveNetwork_stored
      exact .inr ((Program.WritesWithin.stops writes middle late).left mayLeave)
  · -- All but the network is stored already, and is only written over with the same.
    have early : (savePairing details).WritesWithin (PairingStored details before) :=
      writesWithin_savePairing_stored
    have writes := early.bind fun _ => writesWithin_saveNetwork_stored
    have start := Buffered.within_settled stored
    exact .inr ((Program.WritesWithin.stops writes start stops).left mayLeave)

theorem underway_interrupted (ok : details.check = .ok ())
    (unprovisioned : before.look Cell.network.location = none)
    (interrupted : Interrupted (.saveDetails details) before left) :
    Underway details before left := by
  apply interrupted.preserves
  case start =>
    left
    intro location
    exact ⟨fun same => same ▸ unprovisioned, fun _ => rfl⟩
  case attempt =>
    intro σ _ _ store after left underway stops mayLeave
    rw [Operation.action_saveDetails] at stops
    exact underway_attempt ok underway stops mayLeave

theorem Underway.putDetails_eq (underway : Underway details before left) :
    putDetails details left = putDetails details before := by
  apply putDetails_congr
  intro location other
  rcases underway with missing | stored
  · exact (missing location).2 other
  · rcases stored location with same | ⟨network, _⟩
    · rw [same, look_putDetails_other details before other]
    · exact absurd network (other .network (by decide))

theorem Underway.eq_putDetails (underway : Underway details before left)
    (network : (left.look Cell.network.location).isSome = true) :
    left = putDetails details before := by
  rcases underway with missing | stored
  · rw [(missing _).1 rfl] at network
    cases network
  · apply Shelf.eq_of_look
    intro location
    rcases stored location with same | ⟨rfl, none⟩
    · exact same
    · rw [none] at network
      cases network

/-- A store that passes for provisioned has all of the details, and saving them once more
leaves what it would have left on the shelf from which it all began. -/
structure RecoversDetails (details : Details) (before : Shelf) (left : σ) : Prop where
  loads : (isProvisioned.perform left).1 = .ok true → Honest.CanRead left → Loads details left
  completes : Honest.CanRead left → Honest.CanWrite left →
    ((saveDetails details).perform left).1 = .ok ()
  shelf : ((saveDetails details).perform left).1 = .ok () →
    Honest.shelf ((saveDetails details).perform left).2 = ((saveDetails details).perform before).2

/-- First provisioning may be interrupted anywhere and as often as it likes. -/
theorem recoversDetails_interrupted (ok : details.check = .ok ())
    (unprovisioned : before.look Cell.network.location = none) {left : σ}
    (interrupted : Interrupted (.saveDetails details) before (Honest.shelf left)) :
    RecoversDetails details before left := by
  have underway := underway_interrupted ok unprovisioned interrupted
  constructor
  case loads =>
    intro provisioned canRead
    have answer := isProvisioned_of_ok provisioned
    apply loads_of_shelf canRead
    rw [underway.eq_putDetails (Bool.and_eq_true_iff.mp answer.symm).1]
    exact loads_putDetails ok before
  case completes =>
    intro canRead canWrite
    apply Honest.perform_of_can (forwards_saveDetails details) canRead canWrite
    exact congrArg Prod.fst (perform_saveDetails ok _)
  case shelf =>
    intro saved
    rw [(Honest.perform_of_ok (forwards_saveDetails details) saved).2, perform_saveDetails ok,
      perform_saveDetails ok]
    exact underway.putDetails_eq

def deliveredDetails : Details :=
  ⟨⟨"home", "password"⟩, "0e1f2a3b-4c5d-6e7f-8091-a2b3c4d5e6f7", "ABC-123", 7⟩

def cutWhileSaving : Memory :=
  ((Trial.mk (.saveDetails deliveredDetails) (some 5)).step (Buffered.settled ({} : Memory))).store

theorem recoversDetails_cutWhileSaving :
    deliveredDetails.check = .ok () ∧
      (Honest.shelf ({} : Memory)).look Cell.network.location = none ∧
        Interrupted (.saveDetails deliveredDetails) (Honest.shelf ({} : Memory))
          (Honest.shelf cutWhileSaving) ∧
          RecoversDetails deliveredDetails (Honest.shelf ({} : Memory)) cutWhileSaving := by
  have ok : deliveredDetails.check = .ok () := by decide
  have interrupted : Interrupted (.saveDetails deliveredDetails) (Honest.shelf ({} : Memory))
      (Honest.shelf cutWhileSaving) := .again .untried fun _ => .inl rfl
  exact ⟨ok, rfl, interrupted, recoversDetails_interrupted ok rfl interrupted⟩

end Saving

end Credentials

end DeviceAuth
