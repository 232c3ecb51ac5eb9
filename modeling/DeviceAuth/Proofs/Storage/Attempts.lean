import DeviceAuth.Proofs.Json.Values
import DeviceAuth.Proofs.Storage.Writes

/-! Runs of operations, seen from one cell. Each operation of a run is an attempt that
succeeds or fails, and has an effect on a cell or none. What is in the cell after the run is
what the last attempt with an effect has left there. -/

namespace DeviceAuth

namespace Credentials

structure Attempt where
  operation : Operation
  succeeded : Bool

/-- The effect of an attempt on an item is a value that it leaves, or that it leaves none;
there is no effect if the attempt is not about the item, or failed. -/
def ifSucceeded {α : Type} (effect : Operation → Option (Option α)) (attempt : Attempt) :
    Option (Option α) :=
  if attempt.succeeded then effect attempt.operation else none

def latest {α : Type} (effect : Attempt → Option (Option α)) (attempts : List Attempt) :
    Option α :=
  (attempts.reverse.findSome? effect).join

theorem exists_of_latest {α : Type} {effect : Attempt → Option (Option α)}
    {attempts : List Attempt} {value : α} (found : latest effect attempts = some value) :
    ∃ attempt ∈ attempts, effect attempt = some (some value) := by
  rcases List.exists_of_findSome?_eq_some (Option.join_eq_some_iff.mp found) with
    ⟨attempt, member, left⟩
  exact ⟨attempt, List.mem_reverse.mp member, left⟩

namespace Operation

/-! ## Runs -/

section Runs

variable {σ : Type} [Backend σ]

def attempts : List Operation → σ → List Attempt
  | [], _ => []
  | operation :: rest, store =>
      ⟨operation, operation.succeeds store⟩ :: attempts rest (operation.step store)

theorem mem_of_mem_attempts {operations : List Operation} {store : σ} {attempt : Attempt}
    (member : attempt ∈ attempts operations store) : attempt.operation ∈ operations := by
  induction operations generalizing store with
  | nil => cases member
  | cons operation rest induction =>
      rcases List.mem_cons.mp member with rfl | later
      · exact .head rest
      · exact .tail operation (induction later)

theorem succeeds_agrees [Reliable σ] (operation : Operation) {store : σ}
    (works : Reliable.Works store) :
    operation.succeeds store = operation.succeeds (Reliable.shelf store) :=
  congrArg Except.isOk (Reliable.perform_agrees operation.action works).result

theorem shelf_step [Reliable σ] (operation : Operation) {store : σ}
    (works : Reliable.Works store) :
    Reliable.shelf (operation.step store) = operation.step (Reliable.shelf store) :=
  (Reliable.perform_agrees operation.action works).shelf

structure RunAgrees [Reliable σ] (operations : List Operation) (store : σ) : Prop where
  works : Reliable.Works (run operations store)
  shelf : Reliable.shelf (run operations store) = run operations (Reliable.shelf store)
  attempts : attempts operations store = Operation.attempts operations (Reliable.shelf store)

theorem runAgrees [Reliable σ] (operations : List Operation) {store : σ}
    (works : Reliable.Works store) : RunAgrees operations store := by
  induction operations generalizing store with
  | nil => exact ⟨works, rfl, rfl⟩
  | cons operation rest induction =>
      have moved := operation.shelf_step works
      have others : RunAgrees rest (operation.step store) :=
        induction (Reliable.perform_agrees operation.action works).works
      constructor
      case works => exact others.works
      case shelf => exact others.shelf.trans (congrArg (run rest) moved)
      case attempts =>
        rw [attempts, attempts, operation.succeeds_agrees works, others.attempts, moved]

theorem look_run {α : Type} {encode : α → Octets} {effect : Attempt → Option (Option α)}
    {cell : Cell} {operations : List Operation}
    (step : ∀ operation ∈ operations, ∀ shelf : Shelf,
      (operation.step shelf).look cell.location =
        ((effect ⟨operation, operation.succeeds shelf⟩).map (Option.map encode)).getD
          (shelf.look cell.location)) (shelf : Shelf) :
    (run operations shelf).look cell.location =
      (((attempts operations shelf).reverse.findSome? effect).map (Option.map encode)).getD
        (shelf.look cell.location) := by
  induction operations generalizing shelf with
  | nil => rfl
  | cons operation rest induction =>
      have others := induction (fun other member => step other (.tail operation member))
        (operation.step shelf)
      rw [run, others, attempts, List.reverse_cons, List.findSome?_append]
      cases (attempts rest (operation.step shelf)).reverse.findSome? effect with
      | some value => rfl
      | none =>
          rw [Option.map_none, Option.getD_none, step operation (.head rest),
            Option.none_or, List.findSome?_singleton]

end Runs

/-! ## Single operations -/

theorem cells_of_not_isChange {operation : Operation} (unchanged : operation.isChange = false) :
    operation.cells ⊆ identityCells := by
  cases operation with
  | loadDeviceId address => exact List.cons_subset_cons _ (List.nil_subset _)
  | loadSecret address => exact List.Subset.refl _
  | haveTokens | loadAccessToken | loadRefreshToken | loadRecord | loadPairingCode | loadChildId |
    loadChildAge | loadPayload | loadDeviceConfig | loadNetwork | isProvisioned =>
      exact List.nil_subset _
  | _ => cases unchanged

theorem look_step_of_succeeds {operation : Operation} {shelf : Shelf}
    (succeeded : operation.succeeds shelf = true) {cell : Cell} (other : cell ∉ identityCells) :
    (operation.step shelf).look cell.location =
      (Write.last? cell operation.writes).getD (shelf.look cell.location) := by
  cases change : operation.isChange with
  | true =>
      rw [succeeds_of_isChange change] at succeeded
      rw [step_of_isChange change]
      exact Write.look_tryAll succeeded cell shelf
  | false =>
      have unwritten : operation.writes = [] := by simpa [isChange] using change
      have kept : (operation.step shelf).look cell.location = shelf.look cell.location :=
        look_step (fun member => other (cells_of_not_isChange change member)) shelf
      rw [kept, unwritten]
      rfl

def single? : Operation → Option Octets
  | .savePairingCode code => some (Octets.ofText code)
  | .saveChildId id => some (Octets.ofText id)
  | .saveChildAge age => some (ageOctets age)
  | .savePayload payload => some (payloadOctets payload)
  | .saveDeviceConfig config => some config.octets
  | .saveNetwork network => some network.octets
  | _ => none

theorem writes_of_single? {operation : Operation} {octets : Octets}
    (single : operation.single? = some octets) :
    ∃ cell, operation.writes = [⟨cell, some octets⟩] := by
  cases operation with
  | savePairingCode | saveChildId | saveChildAge | savePayload | saveDeviceConfig | saveNetwork =>
      cases single
      exact ⟨_, rfl⟩
  | _ => cases single

theorem fails_iff_of_single? {operation : Operation} {octets : Octets}
    (single : operation.single? = some octets) (shelf : Shelf) :
    operation.succeeds shelf = false ↔ Backend.greatestValue < octets.length := by
  rcases writes_of_single? single with ⟨cell, written⟩
  have change : operation.isChange = true := by simp [isChange, written]
  have outcome : operation.succeeds shelf = decide (octets.length ≤ Backend.greatestValue) := by
    rw [succeeds_of_isChange change, written]
    exact Bool.and_true _
  rw [outcome, decide_eq_false_iff_not]
  exact Nat.not_le

theorem step_of_single?_of_fails {operation : Operation} {octets : Octets}
    (single : operation.single? = some octets) {shelf : Shelf}
    (failed : operation.succeeds shelf = false) : operation.step shelf = shelf := by
  have large := (fails_iff_of_single? single shelf).mp failed
  rcases writes_of_single? single with ⟨cell, written⟩
  have change : operation.isChange = true := by simp [isChange, written]
  have unfit : ¬ Write.fits ⟨cell, some octets⟩ = true := fun fit =>
    Nat.not_le_of_lt large (of_decide_eq_true fit)
  rw [step_of_isChange change, written, Write.tryAll, if_neg unfit]

/-- What the operation is given is within the bounds that are checked before it is stored,
and it can be read again once it is. -/
def IsSound : Operation → Prop
  | .saveTokens access refresh =>
      access.utf8ByteSize ≤ Backend.greatestValue ∧ refresh.utf8ByteSize ≤ Backend.greatestValue
  | .savePayload payload => payload.IsPlain Json.greatestDepth
  | .saveDeviceConfig config => config.IsPlain Json.greatestDepth
  | .saveNetwork network => network.check = .ok ()
  | .saveDetails details => details.check = .ok ()
  | _ => True

theorem fails_cases {operation : Operation} (sound : operation.IsSound)
    (change : operation.isChange = true) {shelf : Shelf}
    (failed : operation.succeeds shelf = false) :
    (∃ octets, operation.single? = some octets) ∨ ∃ record, operation = .saveRecord record := by
  cases operation with
  | savePairingCode | saveChildId | saveChildAge | savePayload | saveDeviceConfig | saveNetwork =>
      exact .inl ⟨_, rfl⟩
  | saveRecord record => exact .inr ⟨record, rfl⟩
  | saveTokens access refresh =>
      have fit : (Operation.saveTokens access refresh).writes.all Write.fits = true := by
        rw [writes, List.all_cons, List.all_cons, List.all_nil, Bool.and_true, Bool.and_eq_true]
        exact ⟨decide_eq_true sound.1, decide_eq_true sound.2⟩
      rw [succeeds_of_isChange change, fit] at failed
      cases failed
  | saveDetails details =>
      have succeeded : (Operation.saveDetails details).succeeds shelf = true := by
        rw [succeeds, action_saveDetails, perform_saveDetails sound]
        rfl
      rw [succeeded] at failed
      cases failed
  | clearTokens | clearNetwork | factoryReset =>
      rw [succeeds_of_isChange change] at failed
      cases failed
  | _ => cases change

end Operation

end Credentials

end DeviceAuth
