import DeviceAuth.Proofs.Storage.Recovery

/-! A reset that is interrupted. It only removes, and never the identity, so wherever it stops
nothing is there that was not there before, and a device that was not provisioned does not pass
for one. Trying the reset once more leaves exactly the identity. -/

namespace DeviceAuth

/-! ## Clearing cells -/

theorem Action.forwards_remove (location : Location) : Forwards (remove location) :=
  fun _ => ⟨fun ⟨_, done⟩ => ⟨done, trivial⟩, fun ⟨done, _⟩ => ⟨(), done⟩⟩

def Shelf.without (cells : List Cell) (shelf : Shelf) : Shelf :=
  ⟨fun location => if location ∈ cells.map Cell.location then none else shelf.look location⟩

theorem Shelf.look_without {cells : List Cell} {shelf : Shelf} (cell : Cell) :
    (shelf.without cells).look cell.location =
      if cell ∈ cells then none else shelf.look cell.location := by
  have same : cell.location ∈ cells.map Cell.location ↔ cell ∈ cells :=
    List.mem_map_of_injective fun _ _ => Cell.location_injective
  simp only [Shelf.without, same]

theorem Shelf.without_without (first second : List Cell) (shelf : Shelf) :
    (shelf.without first).without second = shelf.without (first ++ second) := by
  apply Shelf.eq_of_look
  intro location
  simp only [Shelf.without, List.map_append, List.mem_append]
  by_cases late : location ∈ second.map Cell.location
  · rw [if_pos late, if_pos (.inr late)]
  · simp only [late, if_false, or_false]

theorem Shelf.put_none (cell : Cell) (shelf : Shelf) :
    shelf.put cell.location none = shelf.without [cell] := by
  apply Shelf.eq_of_look
  intro location
  simp only [Shelf.put, Shelf.without, List.map_cons, List.map_nil, List.mem_singleton]

theorem Cell.perform_clearAll (cells : List Cell) (shelf : Shelf) :
    (clearAll cells).perform shelf = (.ok (), shelf.without cells) := by
  induction cells generalizing shelf with
  | nil => rfl
  | cons cell rest induction =>
      rw [clearAll, Action.perform_bind_of_ok (perform_clear cell shelf), induction,
        Shelf.put_none, Shelf.without_without]
      rfl

theorem Cell.forwards_clearAll (cells : List Cell) : Action.Forwards (clearAll cells) := by
  induction cells with
  | nil => exact Action.forwards_pure ()
  | cons cell rest induction =>
      exact Action.Forwards.bind (Action.forwards_remove _) fun _ => induction

namespace Credentials

open DeviceAuth.Action (Forwards forwards_remove forwards_commit WritesWithin writesWithin_commit
  perform_bind_of_ok)
open Cell (writesWithin_clear writesWithin_clearAll forwards_clearAll)

/-! ## What a reset clears -/

def erasedCells : List Cell := pairingCells ++ (tokenCells ++ [Cell.network])

theorem mem_erasedCells (cell : Cell) : cell ∈ erasedCells ↔ cell ∉ identityCells := by
  cases cell <;> decide

theorem perform_clearTokens (shelf : Shelf) :
    clearTokens.perform shelf = (.ok (), shelf.without tokenCells) := by
  unfold clearTokens
  rw [perform_bind_of_ok (Cell.perform_clearAll tokenCells shelf)]
  rfl

theorem perform_clearNetwork (shelf : Shelf) :
    clearNetwork.perform shelf = (.ok (), shelf.without [.network]) := by
  unfold clearNetwork
  rw [perform_bind_of_ok (Cell.perform_clear .network shelf), Shelf.put_none]
  rfl

theorem perform_factoryReset (shelf : Shelf) :
    factoryReset.perform shelf = (.ok (), shelf.without erasedCells) := by
  unfold factoryReset
  rw [perform_bind_of_ok (Cell.perform_clearAll pairingCells shelf), perform_bind_of_ok rfl,
    perform_bind_of_ok (perform_clearTokens _), perform_clearNetwork, Shelf.without_without,
    Shelf.without_without]
  rfl

theorem forwards_factoryReset : Forwards factoryReset := by
  apply Forwards.bind (forwards_clearAll pairingCells)
  intro _
  apply Forwards.bind (forwards_commit _)
  intro _
  apply Forwards.bind
  · exact Forwards.bind (forwards_clearAll tokenCells) fun _ => forwards_commit _
  · exact fun _ => Forwards.bind (forwards_remove _) fun _ => forwards_commit _

/-- What was there before, or nothing where a reset clears. -/
def PartlyErased (before : Shelf) (location : Location) (value : Option Octets) : Prop :=
  value = before.look location ∨ location ∈ erasedCells.map Cell.location ∧ value = none

theorem writesWithin_factoryReset (before : Shelf) :
    factoryReset.WritesWithin (PartlyErased before) := by
  have fine {cells : List Cell} (sub : cells ⊆ erasedCells) :
      ∀ cell ∈ cells, PartlyErased before cell.location none :=
    fun cell member => .inr ⟨List.mem_map_of_mem (sub member), rfl⟩
  apply (writesWithin_clearAll (fine (by decide))).bind
  intro _
  apply (writesWithin_commit _).bind
  intro _
  apply WritesWithin.bind
  · exact (writesWithin_clearAll (fine (by decide))).bind fun _ => writesWithin_commit _
  · intro _
    have network : Cell.network ∈ erasedCells := by decide
    exact (writesWithin_clear (fine (List.Subset.refl _) .network network)).bind
      fun _ => writesWithin_commit _

section Reset

variable {before left : Shelf}

theorem partlyErased_interrupted (interrupted : Interrupted .factoryReset before left) :
    left.Within (PartlyErased before) := by
  apply interrupted.preserves
  case start => exact fun _ => .inl rfl
  case attempt =>
    intro σ _ _ store after left partly stops mayLeave
    have writes : factoryReset.WritesWithin (PartlyErased before) :=
      writesWithin_factoryReset before
    rw [Operation.action_factoryReset] at stops
    exact (Program.WritesWithin.stops writes (Buffered.within_settled partly) stops).left mayLeave

theorem without_of_partlyErased (partly : left.Within (PartlyErased before)) :
    left.without erasedCells = before.without erasedCells := by
  apply Shelf.eq_of_look
  intro location
  dsimp only [Shelf.without]
  split
  next => rfl
  next kept =>
    rcases partly location with same | ⟨erased, _⟩
    · exact same
    · exact absurd erased kept

theorem isSome_of_partlyErased (partly : left.Within (PartlyErased before)) {location : Location}
    (some : (left.look location).isSome = true) : (before.look location).isSome = true := by
  rcases partly location with same | ⟨_, none⟩
  · exact same ▸ some
  · rw [none] at some
    cases some

variable {σ : Type} [Backend σ] [Honest σ]

/-- The identity is as it was; everything else is as it was or gone. A reset that succeeds now
leaves exactly the identity, and what it would have left on the shelf from which it all
began. -/
structure RecoversReset (before : Shelf) (left : σ) : Prop where
  identity : ∀ cell ∈ identityCells,
    (Honest.shelf left).look cell.location = before.look cell.location
  others : ∀ cell : Cell, (Honest.shelf left).look cell.location = before.look cell.location ∨
    (Honest.shelf left).look cell.location = none
  unprovisioned : (isProvisioned.perform before).1 = .ok false →
    (isProvisioned.perform left).1 ≠ .ok true
  completes : Honest.CanRead left → Honest.CanWrite left →
    (factoryReset.perform left).1 = .ok ()
  erases : (factoryReset.perform left).1 = .ok () → ∀ cell : Cell,
    (Honest.shelf (factoryReset.perform left).2).look cell.location =
      if cell ∈ identityCells then before.look cell.location else none
  shelf : (factoryReset.perform left).1 = .ok () →
    Honest.shelf (factoryReset.perform left).2 = (factoryReset.perform before).2

/-- A reset may be interrupted anywhere and as often as it likes. -/
theorem recoversReset_interrupted {left : σ}
    (interrupted : Interrupted .factoryReset before (Honest.shelf left)) :
    RecoversReset before left := by
  have partly := partlyErased_interrupted interrupted
  have reset (done : (factoryReset.perform left).1 = .ok ()) :
      Honest.shelf (factoryReset.perform left).2 = before.without erasedCells := by
    rw [(Honest.perform_of_ok forwards_factoryReset done).2, perform_factoryReset]
    exact without_of_partlyErased partly
  constructor
  case identity =>
    intro cell member
    rcases partly cell.location with same | ⟨erased, _⟩
    · exact same
    · obtain ⟨other, found, same⟩ := List.mem_map.mp erased
      rw [Cell.location_injective same] at found
      exact absurd member ((mem_erasedCells cell).mp found)
  case others =>
    intro cell
    rcases partly cell.location with same | ⟨_, none⟩
    · exact .inl same
    · exact .inr none
  case unprovisioned =>
    intro unprovisioned provisioned
    have answer := Bool.and_eq_true_iff.mp (isProvisioned_of_ok provisioned).symm
    have still := Bool.and_eq_true_iff.mpr
      ⟨isSome_of_partlyErased partly answer.1, isSome_of_partlyErased partly answer.2⟩
    rw [perform_isProvisioned, still] at unprovisioned
    cases unprovisioned
  case completes =>
    intro canRead canWrite
    apply Honest.perform_of_can forwards_factoryReset canRead canWrite
    exact congrArg Prod.fst (perform_factoryReset _)
  case erases =>
    intro done cell
    rw [reset done, Shelf.look_without]
    by_cases identity : cell ∈ identityCells
    · rw [if_pos identity, if_neg fun erased => (mem_erasedCells cell).mp erased identity]
    · rw [if_neg identity, if_pos ((mem_erasedCells cell).mpr identity)]
  case shelf =>
    intro done
    rw [reset done, perform_factoryReset]

def pairedMemory : Memory :=
  { contents := ⟨[(Cell.deviceId.location, [0x44]), (Cell.pairingCode.location, [0x41]),
      (Cell.childId.location, [0x43]), (Cell.network.location, [1, 0x68, 0])]⟩ }

def cutWhileErasing : Memory :=
  { contents := pairedMemory.contents.remove Cell.pairingCode.location }

theorem interrupted_cutWhileErasing :
    Interrupted .factoryReset (Honest.shelf pairedMemory) (Honest.shelf cutWhileErasing) := by
  have mayLeave : (Trial.step ⟨.factoryReset, some 3⟩ (Buffered.settled pairedMemory)).MayLeave
      (Honest.shelf cutWhileErasing) := by
    intro location
    by_cases code : location = Cell.pairingCode.location
    · subst code
      exact .inl rfl
    · exact .inr (Contents.get?_remove_other _ code)
  exact .again .untried mayLeave

theorem recoversReset_cutWhileErasing :
    Interrupted .factoryReset (Honest.shelf pairedMemory) (Honest.shelf cutWhileErasing) ∧
      RecoversReset (Honest.shelf pairedMemory) cutWhileErasing :=
  ⟨interrupted_cutWhileErasing, recoversReset_interrupted interrupted_cutWhileErasing⟩

end Reset

end Credentials

end DeviceAuth
