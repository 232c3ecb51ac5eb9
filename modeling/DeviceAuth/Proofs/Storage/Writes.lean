import DeviceAuth.Proofs.Storage.Operations

/-! What operations write. On a shelf, an operation that saves or clears performs writes that
do not depend on what is stored: one after the other, up to the first that is too large.
What it leaves in a cell is read off that list, and so is whether it succeeds. -/

namespace DeviceAuth

structure Write where
  cell : Cell
  value : Option Octets

namespace Write

/-! ## Writes on a shelf -/

def fits (write : Write) : Bool :=
  match write.value with
  | none => true
  | some octets => octets.length ≤ Backend.greatestValue

/-- Perform writes up to the first that does not fit: whether all of them fit, and the shelf
after them. -/
def tryAll : List Write → Shelf → Bool × Shelf
  | [], shelf => (true, shelf)
  | write :: rest, shelf =>
      if write.fits then tryAll rest (shelf.put write.cell.location write.value)
      else (false, shelf)

theorem succeeds_tryAll (writes : List Write) (shelf : Shelf) :
    (tryAll writes shelf).1 = writes.all fits := by
  induction writes generalizing shelf with
  | nil => rfl
  | cons write rest induction =>
      rw [tryAll, List.all_cons]
      cases write.fits with
      | false => rfl
      | true => exact induction _

theorem tryAll_append (left right : List Write) (shelf : Shelf) :
    tryAll (left ++ right) shelf =
      match tryAll left shelf with
      | (true, shelf) => tryAll right shelf
      | (false, shelf) => (false, shelf) := by
  induction left generalizing shelf with
  | nil => rfl
  | cons write rest induction =>
      rw [List.cons_append, tryAll, tryAll]
      cases write.fits with
      | false => rfl
      | true => exact induction _

def last? (cell : Cell) : List Write → Option (Option Octets)
  | [] => none
  | write :: rest =>
      match last? cell rest with
      | some value => some value
      | none => if write.cell = cell then some write.value else none

theorem look_tryAll {writes : List Write} (fit : writes.all fits = true) (cell : Cell)
    (shelf : Shelf) :
    (tryAll writes shelf).2.look cell.location =
      (last? cell writes).getD (shelf.look cell.location) := by
  induction writes generalizing shelf with
  | nil => rfl
  | cons write rest induction =>
      rw [List.all_cons, Bool.and_eq_true] at fit
      rw [tryAll, if_pos fit.1, induction fit.2, last?]
      cases last? cell rest with
      | some value => rfl
      | none =>
          dsimp only
          split
          next same => rw [← same, Shelf.look_put_same, Option.getD_none, Option.getD_some]
          next different =>
            have other : cell.location ≠ write.cell.location :=
              fun same => different (Cell.location_injective same).symm
            rw [Shelf.look_put_other other, Option.getD_none]

theorem look_tryAll_other {writes : List Write} {location : Location}
    (elsewhere : ∀ write ∈ writes, location ≠ write.cell.location) (shelf : Shelf) :
    (tryAll writes shelf).2.look location = shelf.look location := by
  induction writes generalizing shelf with
  | nil => rfl
  | cons write rest induction =>
      rw [tryAll]
      split
      next =>
        rw [induction fun other member => elsewhere other (.tail write member)]
        exact Shelf.look_put_other (elsewhere write (.head rest)) _ shelf
      next => rfl

def failure? (write : Write) : Option StoreFailure :=
  write.value.bind fun octets =>
    (Backend.refusal? write.cell.location octets).map (.write write.cell.location)

theorem failure?_eq_none_iff {write : Write} : write.failure? = none ↔ write.fits = true := by
  unfold failure? fits
  cases write.value with
  | none => simp
  | some octets =>
      have sizes := write.cell.key_size
      simp only [Option.bind_some, Option.map_eq_none_iff, Backend.refusal?_eq_none_iff,
        decide_eq_true_eq]
      exact ⟨fun accepted => accepted.2.2, fun small => ⟨sizes.1, sizes.2, small⟩⟩

def answer (writes : List Write) : Except StoreFailure Unit :=
  match writes.findSome? failure? with
  | some failure => .error failure
  | none => .ok ()

theorem answer_eq_ok_iff {writes : List Write} :
    answer writes = .ok () ↔ ∀ write ∈ writes, write.fits = true := by
  unfold answer
  cases found : writes.findSome? failure? with
  | none =>
      simp only [true_iff]
      intro write member
      exact failure?_eq_none_iff.mp (List.findSome?_eq_none_iff.mp found write member)
  | some failure =>
      simp only [reduceCtorEq, false_iff]
      intro every
      obtain ⟨write, member, failed⟩ := List.exists_of_findSome?_eq_some found
      rw [failure?_eq_none_iff.mpr (every write member)] at failed
      cases failed

theorem answer_append (left right : List Write) :
    answer (left ++ right) =
      match answer left with
      | .ok () => answer right
      | .error failure => .error failure := by
  unfold answer
  rw [List.findSome?_append]
  cases left.findSome? failure? with
  | none => rfl
  | some failure => rfl

theorem answer_of_first {front back : List Write} {write : Write} {failure : StoreFailure}
    (fit : ∀ earlier ∈ front, earlier.fits = true) (failed : write.failure? = some failure) :
    answer (front ++ write :: back) = .error failure := by
  rw [answer_append, answer_eq_ok_iff.mpr fit]
  simp only [answer, List.findSome?_cons, failed]

/-! ## Actions that write -/

/-- What an action does to a shelf is to try some writes. -/
def Performs (writes : List Write) (action : Action Unit) : Prop :=
  ∀ shelf : Shelf,
    ((action.perform shelf).1.isOk, (action.perform shelf).2) = tryAll writes shelf

theorem Performs.bind {left right : List Write} {first second : Action Unit}
    (performsFirst : Performs left first) (performsSecond : Performs right second) :
    Performs (left ++ right) (do
      first
      second) := by
  intro shelf
  have start := performsFirst shelf
  rw [tryAll_append, Action.perform_bind, ← start]
  rcases first.perform shelf with ⟨failure | _, middle⟩
  case error => rfl
  case ok => exact performsSecond middle

theorem performs_write (cell : Cell) (value : Octets) :
    Performs [⟨cell, some value⟩] (cell.write value) := by
  intro shelf
  by_cases small : value.length ≤ Backend.greatestValue
  · have fit : fits ⟨cell, some value⟩ = true := decide_eq_true small
    rw [Cell.perform_write small, tryAll, if_pos fit]
    rfl
  · have unfit : ¬ fits ⟨cell, some value⟩ = true := fun fit => small (of_decide_eq_true fit)
    rw [tryAll, if_neg unfit]
    cases answer : Backend.refusal? cell.location value with
    | none => exact absurd ((Backend.refusal?_eq_none_iff _ _).mp answer).2.2 small
    | some reason =>
        have refused : (cell.write value).perform shelf = _ := Shelf.set_refused answer shelf
        rw [refused]
        rfl

theorem performs_clear (cell : Cell) : Performs [⟨cell, none⟩] cell.clear := fun _ => rfl

theorem performs_commit (space : String) : Performs [] (Action.commit space) := fun _ => rfl

theorem performs_clearAll (cells : List Cell) :
    Performs (cells.map fun cell => ⟨cell, none⟩) (Cell.clearAll cells) := by
  induction cells with
  | nil => exact fun _ => rfl
  | cons cell rest induction => exact (performs_clear cell).bind induction

def Answers (writes : List Write) (action : Action Unit) : Prop :=
  ∀ shelf : Shelf, (action.perform shelf).1 = answer writes

theorem Answers.bind {left right : List Write} {first second : Action Unit}
    (answersFirst : Answers left first) (answersSecond : Answers right second) :
    Answers (left ++ right) (do
      first
      second) := by
  intro shelf
  have start := answersFirst shelf
  rw [answer_append, Action.perform_bind, ← start]
  rcases first.perform shelf with ⟨failure | _, middle⟩
  case error => rfl
  case ok => exact answersSecond middle

theorem answers_write (cell : Cell) (value : Octets) :
    Answers [⟨cell, some value⟩] (cell.write value) := by
  intro shelf
  cases refused : Backend.refusal? cell.location value with
  | none =>
      have written : (cell.write value).perform shelf = _ := Shelf.set_eq refused shelf
      rw [written]
      simp [answer, failure?, refused]
  | some reason =>
      have failed : (cell.write value).perform shelf = _ := Shelf.set_refused refused shelf
      rw [failed]
      simp [answer, failure?, refused]

theorem answers_commit (space : String) : Answers [] (Action.commit space) := fun _ => rfl

theorem answers_save (cell : Cell) (value : Octets) (space : String) :
    Answers [⟨cell, some value⟩] (do
      cell.write value
      Action.commit space) :=
  (answers_write cell value).bind (answers_commit space)

theorem performs_save (cell : Cell) (value : Octets) (space : String) :
    Performs [⟨cell, some value⟩] (do
      cell.write value
      Action.commit space) :=
  (performs_write cell value).bind (performs_commit space)

end Write

/-! ## Operations -/

namespace Credentials

open Write (Performs performs_write performs_clear performs_clearAll performs_commit performs_save)

namespace Operation

def writes : Operation → List Write
  | .saveTokens access refresh =>
      [⟨.accessToken, some (Octets.ofText access)⟩, ⟨.refreshToken, some (Octets.ofText refresh)⟩]
  | .clearTokens => tokenCells.map fun cell => ⟨cell, none⟩
  | .saveRecord record =>
      [⟨.accessToken, some (Octets.ofText record.token)⟩,
        ⟨.tokenExpiry, some (Octets.ofWord record.expiry)⟩,
        ⟨.tokenDeviceId, some (Octets.ofText record.deviceId)⟩,
        ⟨.tokenChildId, some (Octets.ofText record.childId)⟩]
  | .savePairingCode code => [⟨.pairingCode, some (Octets.ofText code)⟩]
  | .saveChildId id => [⟨.childId, some (Octets.ofText id)⟩]
  | .saveChildAge age => [⟨.childAge, some (ageOctets age)⟩]
  | .savePayload payload => [⟨.payload, some (payloadOctets payload)⟩]
  | .saveDeviceConfig config => [⟨.deviceConfig, some config.octets⟩]
  | .saveNetwork network => [⟨.network, some network.octets⟩]
  | .clearNetwork => [⟨.network, none⟩]
  | .saveDetails details =>
      [⟨.childId, some (Octets.ofText details.childId)⟩,
        ⟨.pairingCode, some (Octets.ofText details.pairingCode)⟩,
        ⟨.childAge, some (ageOctets details.childAge)⟩,
        ⟨.network, some details.network.octets⟩]
  | .factoryReset => (pairingCells ++ (tokenCells ++ [Cell.network])).map fun cell => ⟨cell, none⟩
  | _ => []

def isChange (operation : Operation) : Bool := !operation.writes.isEmpty

theorem performs_action {operation : Operation} (change : operation.isChange = true) :
    Performs operation.writes operation.action := by
  have dropped : ∀ {writes : List Write} {action : Action Unit}, Performs writes action →
      Performs writes action.dropResult := by
    intro writes action performs
    rwa [Action.dropResult_unit]
  cases operation with
  | saveTokens access refresh =>
      exact dropped
        ((performs_write .accessToken _).bind (performs_save .refreshToken _ Cell.tokens))
  | clearTokens => exact dropped ((performs_clearAll tokenCells).bind (performs_commit Cell.tokens))
  | saveRecord record =>
      exact dropped ((performs_write .accessToken _).bind ((performs_write .tokenExpiry _).bind
        ((performs_write .tokenDeviceId _).bind (performs_save .tokenChildId _ Cell.tokens))))
  | savePairingCode code => exact dropped (performs_save .pairingCode _ Cell.credentials)
  | saveChildId id => exact dropped (performs_save .childId _ Cell.credentials)
  | saveChildAge age => exact dropped (performs_save .childAge _ Cell.credentials)
  | savePayload payload => exact dropped (performs_save .payload _ Cell.credentials)
  | saveDeviceConfig config => exact dropped (performs_save .deviceConfig _ Cell.credentials)
  | saveNetwork network => exact dropped (performs_save .network _ Cell.wifi)
  | clearNetwork => exact dropped ((performs_clear .network).bind (performs_commit Cell.wifi))
  | saveDetails details =>
      exact dropped ((performs_write .childId _).bind ((performs_write .pairingCode _).bind
        ((performs_write .childAge _).bind ((performs_commit Cell.credentials).bind
          (performs_save .network _ Cell.wifi)))))
  | factoryReset =>
      have clearsTokens := (performs_clearAll tokenCells).bind (performs_commit Cell.tokens)
      have clearsNetwork := (performs_clear .network).bind (performs_commit Cell.wifi)
      exact dropped ((performs_clearAll pairingCells).bind
        ((performs_commit Cell.credentials).bind (clearsTokens.bind clearsNetwork)))
  | _ => cases change

theorem succeeds_of_isChange {operation : Operation} (change : operation.isChange = true)
    (shelf : Shelf) : operation.succeeds shelf = operation.writes.all Write.fits :=
  (congrArg Prod.fst (performs_action change shelf)).trans (Write.succeeds_tryAll _ shelf)

theorem step_of_isChange {operation : Operation} (change : operation.isChange = true)
    (shelf : Shelf) : operation.step shelf = (Write.tryAll operation.writes shelf).2 :=
  congrArg Prod.snd (performs_action change shelf)

/-! ## Operations that do not write to a location -/

def Spares (location : Location) (operation : Operation) : Prop :=
  operation.isChange = true ∧ ∀ write ∈ operation.writes, location ≠ write.cell.location

theorem look_run_spares {operations : List Operation} {location : Location}
    (spares : ∀ operation ∈ operations, operation.Spares location) (shelf : Shelf) :
    (run operations shelf).look location = shelf.look location := by
  induction operations generalizing shelf with
  | nil => rfl
  | cons operation rest induction =>
      obtain ⟨change, elsewhere⟩ := spares operation (.head rest)
      rw [run, induction fun other member => spares other (.tail operation member),
        step_of_isChange change, Write.look_tryAll_other elsewhere]

section Saved

variable {α : Type} {save : α → Operation} {form : α → Octets} {cell : Cell}

theorem isChange_of_writes {operation : Operation} {write : Write}
    (writes : operation.writes = [write]) : operation.isChange = true := by
  rw [isChange, writes]
  rfl

theorem look_run_saved (writes : ∀ value, (save value).writes = [⟨cell, some (form value)⟩])
    (value? : Option α) (shelf : Shelf) :
    (run (value?.map save).toList shelf).look cell.location =
      ((value?.map form).filter fun octets => octets.length ≤ Backend.greatestValue).or
        (shelf.look cell.location) := by
  cases value? with
  | none => rfl
  | some value =>
      have change := isChange_of_writes (writes value)
      simp only [Option.map_some, Option.toList_some, run, step_of_isChange change, writes,
        Write.tryAll, Write.fits, decide_eq_true_eq, Option.filter_some]
      split
      next => exact Shelf.look_put_same _ _ shelf
      next => rw [Option.none_or]

theorem look_run_saved_other (writes : ∀ value, (save value).writes = [⟨cell, some (form value)⟩])
    {other : Cell} (different : other ≠ cell) (value? : Option α) (shelf : Shelf) :
    (run (value?.map save).toList shelf).look other.location = shelf.look other.location := by
  apply look_run_spares
  intro operation member
  simp only [Option.mem_toList, Option.map_eq_some_iff] at member
  obtain ⟨value, _, rfl⟩ := member
  refine ⟨isChange_of_writes (writes value), ?_⟩
  rw [writes]
  intro write member same
  rw [List.mem_singleton.mp member] at same
  exact different (Cell.location_injective same)

end Saved

end Operation

end Credentials

end DeviceAuth
