import DeviceAuth.Proofs.Network
import DeviceAuth.Proofs.Storage.Honest

/-! What provisioning leaves in the store. Details within their bounds are small, so they can
be stored, and each loader finds its part of them again. -/

namespace DeviceAuth

/-! ## Bounds -/

theorem ChildId.size_of_check {id : String} (ok : check id = .ok ()) : id.utf8ByteSize = size := by
  by_cases wrong : (Octets.ofText id).length ≠ size
  · simp [check, if_pos wrong] at ok
  · exact Decidable.not_not.mp wrong

theorem PairingCode.size_of_check {code : String} (ok : check code = .ok ()) :
    code.utf8ByteSize ≤ greatestSize := by
  by_cases wrong : (Octets.ofText code).length < leastSize ∨
      greatestSize < (Octets.ofText code).length
  · simp [check, if_pos wrong] at ok
  · exact Nat.le_of_not_lt fun large => wrong (.inr large)

namespace Details

theorem check_eq_ok_iff (details : Details) : details.check = .ok () ↔
    details.network.check = .ok () ∧ ChildId.check details.childId = .ok () ∧
      PairingCode.check details.pairingCode = .ok () ∧
        ChildAge.check details.childAge = .ok () := by
  unfold check
  cases details.network.check with
  | error failure => simp
  | ok =>
      cases ChildId.check details.childId with
      | error failure => simp
      | ok =>
          cases PairingCode.check details.pairingCode with
          | error failure => simp
          | ok => simp

theorem ofOctets_eq_ok_iff {octets : Octets} {details : Details} :
    ofOctets octets = .ok details ↔
      (Json.Document.parse? octets).bind ofDocument? = some details ∧ details.check = .ok () := by
  unfold ofOctets
  cases (Json.Document.parse? octets).bind ofDocument? with
  | none => simp
  | some read =>
      dsimp only
      cases checked : read.check with
      | error failure =>
          simp only [reduceCtorEq, Option.some.injEq, false_iff, not_and]
          rintro rfl ok
          rw [checked] at ok
          cases ok
      | ok =>
          simp only [Except.ok.injEq, Option.some.injEq, iff_self_and]
          rintro rfl
          exact checked

end Details

/-! ## Storing -/

namespace Credentials

open DeviceAuth.Action (Forwards forwards_set forwards_commit perform_bind_of_ok)

def detailsCells : List Cell := [.childId, .pairingCode, .childAge, .network]

def putDetails (details : Details) (shelf : Shelf) : Shelf :=
  (((shelf.put Cell.childId.location (some (Octets.ofText details.childId))).put
    Cell.pairingCode.location (some (Octets.ofText details.pairingCode))).put
    Cell.childAge.location (some (ageOctets details.childAge))).put
    Cell.network.location (some details.network.octets)

theorem look_putDetails_other (details : Details) (shelf : Shelf) {location : Location}
    (other : ∀ cell ∈ detailsCells, location ≠ cell.location) :
    (putDetails details shelf).look location = shelf.look location := by
  unfold putDetails
  rw [Shelf.look_put_other (other .network (by decide)),
    Shelf.look_put_other (other .childAge (by decide)),
    Shelf.look_put_other (other .pairingCode (by decide)),
    Shelf.look_put_other (other .childId (by decide))]

theorem perform_saveDetails {details : Details} (ok : details.check = .ok ()) (shelf : Shelf) :
    (saveDetails details).perform shelf = (.ok (), putDetails details shelf) := by
  obtain ⟨network, childId, pairingCode, _⟩ := details.check_eq_ok_iff.mp ok
  have sizes := (Network.check_eq_ok_iff _).mp network
  have idFits : details.childId.utf8ByteSize ≤ Backend.greatestValue := by
    rw [ChildId.size_of_check childId]
    decide
  have codeFits : details.pairingCode.utf8ByteSize ≤ Backend.greatestValue :=
    Nat.le_trans (PairingCode.size_of_check pairingCode) (by decide)
  have ageFits : (ageOctets details.childAge).length ≤ Backend.greatestValue := by
    rw [ageOctets, Octets.length_ofWord]
    decide
  have networkFits : details.network.octets.length ≤ Backend.greatestValue := by
    have greatest : Network.greatestSsid + Network.greatestPassword + 2 ≤
        Backend.greatestValue := by decide
    rw [Network.length_octets]
    omega
  unfold saveDetails saveNetwork
  rw [perform_bind_of_ok (Cell.perform_writeText idFits),
    perform_bind_of_ok (Cell.perform_writeText codeFits),
    perform_bind_of_ok (Cell.perform_write ageFits), perform_bind_of_ok rfl,
    perform_bind_of_ok (Cell.perform_write networkFits)]
  rfl

theorem forwards_saveDetails (details : Details) : Forwards (saveDetails details) := by
  apply Forwards.bind (forwards_set _ _)
  intro _
  apply Forwards.bind (forwards_set _ _)
  intro _
  apply Forwards.bind (forwards_set _ _)
  intro _
  apply Forwards.bind (forwards_commit _)
  intro _
  apply Forwards.bind (forwards_set _ _)
  intro _
  exact forwards_commit _

/-! ## Loading -/

theorem age?_ageOctets (age : Int32) : age? (ageOctets age) = some age := by
  rw [age?, ageOctets, Octets.toWord?_ofWord]
  rfl

structure Loads {σ : Type} [Backend σ] (details : Details) (store : σ) : Prop where
  childId : (loadChildId.perform store).1 = .ok (some details.childId)
  pairingCode : (loadPairingCode.perform store).1 = .ok (some details.pairingCode)
  childAge : (loadChildAge.perform store).1 = .ok (some details.childAge)
  network : (loadNetwork.perform store).1 = .ok (some details.network)

theorem loads_putDetails {details : Details} (ok : details.check = .ok ()) (shelf : Shelf) :
    Loads details (putDetails details shelf) := by
  have network : network? details.network.octets = some details.network := by
    rw [network?, Network.ofOctets?_octets (details.check_eq_ok_iff.mp ok).1]
    rfl
  -- The cells differ, so no part is written over another.
  have read : ∀ {α : Type} {decode? : Octets → Option α} {cell : Cell} {octets : Octets}
      {value : α}, (putDetails details shelf).look cell.location = some octets →
        decode? octets = some value →
          ((cell.readAs decode?).perform (putDetails details shelf)).1 = .ok (some value) :=
    fun found decoded => congrArg Prod.fst (Cell.perform_readAs_some found decoded)
  exact {
    childId := read rfl (Octets.toText?_ofText _)
    pairingCode := read rfl (Octets.toText?_ofText _)
    childAge := read rfl (age?_ageOctets _)
    network := read rfl network }

variable {σ : Type} [Backend σ] [Honest σ] {details : Details} {store : σ}

theorem loads_of_shelf (canRead : Honest.CanRead store)
    (loads : Loads details (Honest.shelf store)) : Loads details store where
  childId := (Honest.result_readAs canRead _ _).trans loads.childId
  pairingCode := (Honest.result_readAs canRead _ _).trans loads.pairingCode
  childAge := (Honest.result_readAs canRead _ _).trans loads.childAge
  network := (Honest.result_readAs canRead _ _).trans loads.network

theorem noneFails_saveDetails (ok : details.check = .ok ()) (canRead : Honest.CanRead store)
    (canWrite : Honest.CanWrite store) : (saveDetails details).NoneFails store := by
  apply Honest.noneFails_of_can _ canRead canWrite
  apply (forwards_saveDetails details (Honest.shelf store)).mp
  exact ⟨(), congrArg Prod.fst (perform_saveDetails ok (Honest.shelf store))⟩

theorem shelf_saveDetails (ok : details.check = .ok ())
    (succeeds : (saveDetails details).NoneFails store) :
    Honest.shelf ((saveDetails details).perform store).2 =
      putDetails details (Honest.shelf store) := by
  have ran := Honest.run_of_noneFails (saveDetails details).run succeeds
  exact ran.2.trans (congrArg Prod.snd (perform_saveDetails ok _))

theorem loads_saveDetails (ok : details.check = .ok ())
    (succeeds : (saveDetails details).NoneFails store) (canRead : Honest.CanRead store) :
    Loads details ((saveDetails details).perform store).2 := by
  have canReadAfter : Honest.CanRead ((saveDetails details).perform store).2 :=
    Honest.canRead_run _ canRead
  apply loads_of_shelf canReadAfter
  rw [shelf_saveDetails ok succeeds]
  exact loads_putDetails ok _

end Credentials

end DeviceAuth
