import DeviceAuth.Proofs.Storage.Records

/-! Honest stores. A call of an honest store does what it does to a shelf, or it fails and
leaves what is stored as it was. Any call may fail, at any time, unless the store can be
read from or written to. So where no call of a program failed, the program did what it does
to the shelf. -/

namespace DeviceAuth

/-! ## Programs none of whose calls fail -/

namespace Program

variable {α β σ : Type} [Backend σ]

def NoneFails : Program α → σ → Prop
  | .done _, _ => True
  | .get location next, store =>
      (∃ found, (Backend.get location store).1 = .ok found) ∧
        (next (Backend.get location store).1).NoneFails (Backend.get location store).2
  | .set location value next, store =>
      (Backend.set location value store).1 = .ok () ∧
        (next (Backend.set location value store).1).NoneFails
          (Backend.set location value store).2
  | .remove location next, store =>
      (Backend.remove location store).1 = .ok () ∧
        (next (Backend.remove location store).1).NoneFails (Backend.remove location store).2
  | .commit space next, store =>
      (Backend.commit space store).1 = .ok () ∧
        (next (Backend.commit space store).1).NoneFails (Backend.commit space store).2

theorem noneFails_bind (program : Program α) (continuation : α → Program β) (store : σ) :
    (program >>= continuation).NoneFails store ↔
      program.NoneFails store ∧
        (continuation (program.run store).1).NoneFails (program.run store).2 := by
  show (program.bind continuation).NoneFails store ↔ _
  induction program generalizing store with
  | done result => exact iff_of_eq (true_and _).symm
  | get location next induction => exact (and_congr_right' (induction _ _)).trans and_assoc.symm
  | set location value next induction =>
      exact (and_congr_right' (induction _ _)).trans and_assoc.symm
  | remove location next induction =>
      exact (and_congr_right' (induction _ _)).trans and_assoc.symm
  | commit space next induction => exact (and_congr_right' (induction _ _)).trans and_assoc.symm

end Program

namespace Action

variable {α β : Type}

def NoneFails {σ : Type} [Backend σ] (action : Action α) (store : σ) : Prop :=
  Program.NoneFails action.run store

def Forwards (action : Action α) : Prop :=
  ∀ {σ : Type} [Backend σ] (store : σ),
    (∃ value, (action.perform store).1 = .ok value) ↔ action.NoneFails store

theorem forwards_set (location : Location) (value : Octets) : Forwards (set location value) :=
  fun _ => ⟨fun ⟨_, done⟩ => ⟨done, trivial⟩, fun ⟨done, _⟩ => ⟨(), done⟩⟩

theorem forwards_commit (space : String) : Forwards (commit space) :=
  fun _ => ⟨fun ⟨_, done⟩ => ⟨done, trivial⟩, fun ⟨done, _⟩ => ⟨(), done⟩⟩

theorem Forwards.bind {action : Action α} {continuation : α → Action β}
    (first : Forwards action) (second : ∀ value, Forwards (continuation value)) :
    Forwards (action >>= continuation) := by
  intro σ _ store
  have split : (action >>= continuation).NoneFails store ↔
      action.NoneFails store ∧
        Program.NoneFails (ExceptT.bindCont continuation (action.perform store).1)
          (action.perform store).2 :=
    Program.noneFails_bind action.run (ExceptT.bindCont continuation) store
  rw [split, perform_bind, ← first store]
  rcases action.perform store with ⟨failure | value, after⟩
  · simp
  · simp only [Except.ok.injEq, exists_eq', true_and]
    exact second value after

end Action

/-! ## Honest stores -/

/-- A call of a store does what it does to a shelf, or fails and changes nothing. If the
store is able to, it does the former. It does not lose an ability by a call. -/
structure Honours {σ α : Type} (shelf : σ → Shelf) (canRead canWrite able : σ → Prop)
    (before : σ) (real : Except StoreFailure α × σ) (ideal : Except StoreFailure α × Shelf) :
    Prop where
  outcome : real.1 = ideal.1 ∧ shelf real.2 = ideal.2 ∨
    (∃ failure, real.1 = .error failure) ∧ shelf real.2 = shelf before
  able : able before → real.1 = ideal.1 ∧ shelf real.2 = ideal.2
  canRead : canRead before → canRead real.2
  canWrite : canWrite before → canWrite real.2

/-- A type of stores of which any call may fail, but none does something else. -/
class Honest (σ : Type) [Backend σ] where
  shelf : σ → Shelf
  CanRead : σ → Prop
  CanWrite : σ → Prop
  get (location : Location) (store : σ) :
    Honours shelf CanRead CanWrite CanRead store (Backend.get location store)
      (Backend.get location (shelf store))
  set (location : Location) (value : Octets) (store : σ) :
    Honours shelf CanRead CanWrite CanWrite store (Backend.set location value store)
      (Backend.set location value (shelf store))
  remove (location : Location) (store : σ) :
    Honours shelf CanRead CanWrite CanWrite store (Backend.remove location store)
      (Backend.remove location (shelf store))
  commit (space : String) (store : σ) :
    Honours shelf CanRead CanWrite CanWrite store (Backend.commit space store)
      (Backend.commit space (shelf store))

namespace Honours

variable {σ α : Type} {shelf : σ → Shelf} {canRead canWrite able : σ → Prop} {before : σ}
  {real : Except StoreFailure α × σ} {ideal : Except StoreFailure α × Shelf}

theorem of_ok (honours : Honours shelf canRead canWrite able before real ideal) {value : α}
    (succeeded : real.1 = .ok value) : real.1 = ideal.1 ∧ shelf real.2 = ideal.2 := by
  rcases honours.outcome with done | ⟨⟨failure, failed⟩, _⟩
  · exact done
  · rw [failed] at succeeded
    cases succeeded

theorem of_done (done : real.1 = ideal.1 ∧ shelf real.2 = ideal.2)
    (reads : canRead before → canRead real.2) (writes : canWrite before → canWrite real.2) :
    Honours shelf canRead canWrite able before real ideal :=
  ⟨.inl done, fun _ => done, reads, writes⟩

theorem of_unable (unable : ¬ able before) (failure : StoreFailure) :
    Honours shelf canRead canWrite able before (.error failure, before) ideal :=
  ⟨.inr ⟨⟨failure, rfl⟩, rfl⟩, fun can => absurd can unable, id, id⟩

end Honours

namespace Honest

variable {α σ : Type} [Backend σ] [Honest σ] {store : σ}

theorem run_of_noneFails (program : Program α) (succeeds : program.NoneFails store) :
    (program.run store).1 = (program.run (shelf store)).1 ∧
      shelf (program.run store).2 = (program.run (shelf store)).2 := by
  have goOn : ∀ {β : Type} {next : Except StoreFailure β → Program α}
      {real : Except StoreFailure β × σ} {ideal : Except StoreFailure β × Shelf},
      real.1 = ideal.1 ∧ shelf real.2 = ideal.2 →
      ((next real.1).run real.2).1 = ((next real.1).run (shelf real.2)).1 ∧
        shelf ((next real.1).run real.2).2 = ((next real.1).run (shelf real.2)).2 →
      ((next real.1).run real.2).1 = ((next ideal.1).run ideal.2).1 ∧
        shelf ((next real.1).run real.2).2 = ((next ideal.1).run ideal.2).2 := by
    rintro β next ⟨result, after⟩ ⟨_, _⟩ ⟨rfl, rfl⟩ rest
    exact rest
  induction program generalizing store with
  | done result => exact ⟨rfl, rfl⟩
  | get location next induction =>
      obtain ⟨⟨_, found⟩, rest⟩ := succeeds
      exact goOn ((get location store).of_ok found) (induction _ rest)
  | set location value next induction =>
      exact goOn ((set location value store).of_ok succeeds.1) (induction _ succeeds.2)
  | remove location next induction =>
      exact goOn ((remove location store).of_ok succeeds.1) (induction _ succeeds.2)
  | commit space next induction =>
      exact goOn ((commit space store).of_ok succeeds.1) (induction _ succeeds.2)

theorem noneFails_of_can (program : Program α) (canRead : CanRead store)
    (canWrite : CanWrite store) (succeeds : program.NoneFails (shelf store)) :
    program.NoneFails store := by
  have goOn : ∀ {β : Type} {able : σ → Prop} {next : Except StoreFailure β → Program α}
      {store : σ} {real : Except StoreFailure β × σ} {ideal : Except StoreFailure β × Shelf},
      (∀ answer {store : σ}, CanRead store → CanWrite store →
        (next answer).NoneFails (shelf store) → (next answer).NoneFails store) →
      CanRead store → CanWrite store → able store →
      Honours shelf CanRead CanWrite able store real ideal →
      (next ideal.1).NoneFails ideal.2 → (next real.1).NoneFails real.2 := by
    intro β able next store real ideal induction canRead canWrite can call rest
    rw [← (call.able can).1, ← (call.able can).2] at rest
    exact induction _ (call.canRead canRead) (call.canWrite canWrite) rest
  induction program generalizing store with
  | done result => trivial
  | get location next induction =>
      have call := get location store
      obtain ⟨found, rest⟩ := succeeds
      exact ⟨(call.able canRead).1 ▸ found, goOn induction canRead canWrite canRead call rest⟩
  | set location value next induction =>
      have call := set location value store
      obtain ⟨done, rest⟩ := succeeds
      exact ⟨(call.able canWrite).1 ▸ done, goOn induction canRead canWrite canWrite call rest⟩
  | remove location next induction =>
      have call := remove location store
      obtain ⟨done, rest⟩ := succeeds
      exact ⟨(call.able canWrite).1 ▸ done, goOn induction canRead canWrite canWrite call rest⟩
  | commit space next induction =>
      have call := commit space store
      obtain ⟨done, rest⟩ := succeeds
      exact ⟨(call.able canWrite).1 ▸ done, goOn induction canRead canWrite canWrite call rest⟩

theorem canRead_run (program : Program α) (canRead : CanRead store) :
    CanRead (program.run store).2 := by
  induction program generalizing store with
  | done result => exact canRead
  | get location next induction => exact induction _ ((get location store).canRead canRead)
  | set location value next induction =>
      exact induction _ ((set location value store).canRead canRead)
  | remove location next induction => exact induction _ ((remove location store).canRead canRead)
  | commit space next induction => exact induction _ ((commit space store).canRead canRead)

theorem canWrite_run (program : Program α) (canWrite : CanWrite store) :
    CanWrite (program.run store).2 := by
  induction program generalizing store with
  | done result => exact canWrite
  | get location next induction => exact induction _ ((get location store).canWrite canWrite)
  | set location value next induction =>
      exact induction _ ((set location value store).canWrite canWrite)
  | remove location next induction => exact induction _ ((remove location store).canWrite canWrite)
  | commit space next induction => exact induction _ ((commit space store).canWrite canWrite)

theorem result_readAs (canRead : CanRead store) (decode? : Octets → Option α) (cell : Cell) :
    ((cell.readAs decode?).perform store).1 =
      ((cell.readAs decode?).perform (shelf store)).1 := by
  have found := ((get cell.location store).able canRead).1
  have succeeds : (cell.readAs decode?).NoneFails store := by
    refine (Program.noneFails_bind _ _ store).mpr ⟨⟨⟨_, found⟩, trivial⟩, ?_⟩
    show Program.NoneFails (ExceptT.bindCont _ (Backend.get cell.location store).1) _
    rw [found]
    dsimp only [ExceptT.bindCont, Shelf.get_eq]
    cases (shelf store).look cell.location with
    | none => trivial
    | some octets =>
        dsimp only
        cases decode? octets with
        | none => trivial
        | some value => trivial
  exact (run_of_noneFails _ succeeds).1

instance : Honest Shelf where
  shelf := id
  CanRead _ := True
  CanWrite _ := True
  get _ _ := .of_done ⟨rfl, rfl⟩ id id
  set _ _ _ := .of_done ⟨rfl, rfl⟩ (fun _ => trivial) fun _ => trivial
  remove _ _ := .of_done ⟨rfl, rfl⟩ (fun _ => trivial) fun _ => trivial
  commit _ _ := .of_done ⟨rfl, rfl⟩ id id

end Honest

instance : Honest Memory where
  shelf := Memory.shelf
  CanRead memory := memory.failReads = false
  CanWrite memory := memory.failWrites = false
  get location memory := by
    cases fails : memory.failReads with
    | true =>
        simp only [Backend.get, fails, if_true]
        exact .of_unable (by simp [fails]) _
    | false =>
        simp only [Backend.get, fails]
        exact .of_done ⟨rfl, rfl⟩ (fun _ => fails) id
  set location value memory := by
    cases fails : memory.failWrites with
    | true =>
        simp only [Backend.set, fails, if_true]
        exact .of_unable (by simp [fails]) _
    | false =>
        cases answer : Backend.refusal? location value with
        | some reason =>
            simp only [Backend.set, fails, answer]
            exact .of_done ⟨rfl, rfl⟩ id fun _ => fails
        | none =>
            have put := memory.shelf_set location value
            rw [fails] at put
            simp only [Backend.set, fails, answer]
            exact .of_done ⟨rfl, put⟩ id fun _ => rfl
  remove location memory := by
    cases fails : memory.failWrites with
    | true =>
        simp only [Backend.remove, fails, if_true]
        exact .of_unable (by simp [fails]) _
    | false =>
        have put := memory.shelf_remove location
        rw [fails] at put
        simp only [Backend.remove, fails]
        exact .of_done ⟨rfl, put⟩ id fun _ => rfl
  commit space memory := by
    cases fails : memory.failWrites with
    | true =>
        simp only [Backend.commit, fails, if_true]
        exact .of_unable (by simp [fails]) _
    | false =>
        simp only [Backend.commit, fails]
        exact .of_done ⟨rfl, rfl⟩ id fun _ => fails

end DeviceAuth
