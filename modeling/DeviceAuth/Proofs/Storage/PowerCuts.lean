import DeviceAuth.Proofs.Storage.Operations
import DeviceAuth.Storage.Interruption

/-! Power cuts. A backend may keep the writes of a namespace back until it is told to commit
them, so a device that loses its power in the middle of an operation may find any of the
uncommitted writes done or undone when it starts again. What is then in the store is described
location by location: if a program only ever writes what is allowed at a location, then
nothing else can be there, wherever the program stopped. -/

namespace DeviceAuth

namespace Shelf

theorem eq_of_look {left right : Shelf}
    (same : ∀ location, left.look location = right.look location) : left = right :=
  congrArg Shelf.mk (funext same)

def adopt (shelf : Shelf) (space : String) (source : Shelf) : Shelf :=
  ⟨fun location => if location.space = space then source.look location else shelf.look location⟩

def Within (allowed : Location → Option Octets → Prop) (shelf : Shelf) : Prop :=
  ∀ location, allowed location (shelf.look location)

variable {allowed : Location → Option Octets → Prop} {shelf : Shelf}

theorem Within.put (within : shelf.Within allowed) {location : Location} {value : Option Octets}
    (fine : allowed location value) : (shelf.put location value).Within allowed := by
  intro other
  by_cases same : other = location
  · rw [same, look_put_same]
    exact fine
  · rw [look_put_other same]
    exact within other

theorem Within.set (within : shelf.Within allowed) {location : Location} {value : Octets}
    (fine : allowed location (some value)) :
    (Backend.set location value shelf).2.Within allowed := by
  cases answer : Backend.refusal? location value with
  | some reason =>
      rw [set_refused answer]
      exact within
  | none =>
      rw [set_eq answer]
      exact within.put fine

theorem Within.adopt (within : shelf.Within allowed) {source : Shelf}
    (sourceWithin : source.Within allowed) (space : String) :
    (shelf.adopt space source).Within allowed := by
  intro location
  dsimp only [Shelf.adopt]
  split
  next => exact sourceWithin location
  next => exact within location

end Shelf

/-! ## Stores that keep writes back -/

/-- A store, and what of it would be found after a power cut if no more than what was committed
had become durable. -/
structure Buffered (σ : Type) where
  store : σ
  durable : Shelf

namespace Buffered

variable {σ : Type} [Backend σ] [Honest σ]

def settled (store : σ) : Buffered σ := ⟨store, Honest.shelf store⟩

def keep (buffered : Buffered σ) (space : String) (store : σ) :
    Except StoreFailure Unit → Shelf
  | .ok () => buffered.durable.adopt space (Honest.shelf store)
  | .error _ => buffered.durable

instance : Backend (Buffered σ) where
  get location buffered :=
    let call := Backend.get location buffered.store
    (call.1, { buffered with store := call.2 })
  set location value buffered :=
    let call := Backend.set location value buffered.store
    (call.1, { buffered with store := call.2 })
  remove location buffered :=
    let call := Backend.remove location buffered.store
    (call.1, { buffered with store := call.2 })
  commit space buffered :=
    let call := Backend.commit space buffered.store
    (call.1, ⟨call.2, buffered.keep space call.2 call.1⟩)

instance : Honest (Buffered σ) where
  shelf buffered := Honest.shelf buffered.store
  CanRead buffered := Honest.CanRead buffered.store
  CanWrite buffered := Honest.CanWrite buffered.store
  get location buffered :=
    have call := Honest.get location buffered.store
    ⟨call.outcome, call.able, call.canRead, call.canWrite⟩
  set location value buffered :=
    have call := Honest.set location value buffered.store
    ⟨call.outcome, call.able, call.canRead, call.canWrite⟩
  remove location buffered :=
    have call := Honest.remove location buffered.store
    ⟨call.outcome, call.able, call.canRead, call.canWrite⟩
  commit space buffered :=
    have call := Honest.commit space buffered.store
    ⟨call.outcome, call.able, call.canRead, call.canWrite⟩

/-- What a power cut may leave: at each location what was there last, or what was durable. -/
def MayLeave (buffered : Buffered σ) (left : Shelf) : Prop :=
  ∀ location, left.look location = (Honest.shelf buffered).look location ∨
    left.look location = buffered.durable.look location

structure Within (allowed : Location → Option Octets → Prop) (buffered : Buffered σ) : Prop where
  current : (Honest.shelf buffered).Within allowed
  durable : buffered.durable.Within allowed

variable {allowed : Location → Option Octets → Prop} {buffered : Buffered σ}

theorem within_settled {store : σ} (within : (Honest.shelf store).Within allowed) :
    (settled store).Within allowed := ⟨within, within⟩

theorem Within.left (within : buffered.Within allowed) {left : Shelf}
    (mayLeave : buffered.MayLeave left) : left.Within allowed := by
  intro location
  rcases mayLeave location with same | same
  · exact same ▸ within.current location
  · exact same ▸ within.durable location

theorem look_durable_commit {space : String}
    (committed : (Backend.commit space buffered).1 = .ok ()) {location : Location}
    (inSpace : location.space = space) :
    (Backend.commit space buffered).2.durable.look location =
      (Honest.shelf (Backend.commit space buffered).2).look location := by
  show (buffered.keep space _ (Backend.commit space buffered).1).look location = _
  rw [committed]
  exact if_pos inSpace

end Buffered

/-! ## Programs that write what is allowed -/

namespace Program

variable {α β : Type} {allowed : Location → Option Octets → Prop}

def WritesWithin (allowed : Location → Option Octets → Prop) : Program α → Prop
  | .done _ => True
  | .get _ next => ∀ answer, (next answer).WritesWithin allowed
  | .set location value next =>
      allowed location (some value) ∧ ∀ answer, (next answer).WritesWithin allowed
  | .remove location next =>
      allowed location none ∧ ∀ answer, (next answer).WritesWithin allowed
  | .commit _ next => ∀ answer, (next answer).WritesWithin allowed

theorem WritesWithin.bind {program : Program α} {continuation : α → Program β}
    (first : program.WritesWithin allowed)
    (second : ∀ result, (continuation result).WritesWithin allowed) :
    (program >>= continuation).WritesWithin allowed := by
  show (program.bind continuation).WritesWithin allowed
  induction program with
  | done result => exact second result
  | get location next induction => exact fun answer => induction answer (first answer)
  | set location value next induction =>
      exact ⟨first.1, fun answer => induction answer (first.2 answer)⟩
  | remove location next induction =>
      exact ⟨first.1, fun answer => induction answer (first.2 answer)⟩
  | commit space next induction => exact fun answer => induction answer (first answer)

theorem WritesWithin.cut {program : Program α} (writes : program.WritesWithin allowed)
    (calls : Nat) : (program.cut calls).WritesWithin allowed := by
  induction program generalizing calls with
  | done result =>
      rw [Program.cut]
      trivial
  | get location next induction =>
      cases calls with
      | zero => trivial
      | succ calls => exact fun answer => induction answer (writes answer) calls
  | set location value next induction =>
      cases calls with
      | zero => trivial
      | succ calls => exact ⟨writes.1, fun answer => induction answer (writes.2 answer) calls⟩
  | remove location next induction =>
      cases calls with
      | zero => trivial
      | succ calls => exact ⟨writes.1, fun answer => induction answer (writes.2 answer) calls⟩
  | commit space next induction =>
      cases calls with
      | zero => trivial
      | succ calls => exact fun answer => induction answer (writes answer) calls

variable {σ : Type} [Backend σ]

/-- A store that a program may leave: it came to its end, or was cut off after some calls. -/
inductive Stops (program : Program α) (store : σ) : σ → Prop
  | finished : Stops program store (program.run store).2
  | cutOff (calls : Nat) : Stops program store ((program.cut calls).run store).2

theorem cut_bind (program : Program α) (continuation : α → Program β) (calls : Nat) (store : σ) :
    (((program >>= continuation).cut calls).run store).2 = ((program.cut calls).run store).2 ∨
      ∃ rest, (((program >>= continuation).cut calls).run store).2 =
        (((continuation (program.run store).1).cut rest).run (program.run store).2).2 := by
  show (((program.bind continuation).cut calls).run store).2 = _ ∨ ∃ rest,
    (((program.bind continuation).cut calls).run store).2 = _
  induction program generalizing calls store with
  | done result => exact .inr ⟨calls, rfl⟩
  | get location next induction =>
      cases calls with
      | zero => exact .inl rfl
      | succ calls => exact induction _ calls _
  | set location value next induction =>
      cases calls with
      | zero => exact .inl rfl
      | succ calls => exact induction _ calls _
  | remove location next induction =>
      cases calls with
      | zero => exact .inl rfl
      | succ calls => exact induction _ calls _
  | commit space next induction =>
      cases calls with
      | zero => exact .inl rfl
      | succ calls => exact induction _ calls _

theorem Stops.of_bind {program : Program α} {continuation : α → Program β} {store after : σ}
    (stops : (program >>= continuation).Stops store after) :
    program.Stops store after ∨
      (continuation (program.run store).1).Stops (program.run store).2 after := by
  cases stops with
  | finished =>
      rw [run_bind]
      exact .inr .finished
  | cutOff calls =>
      rcases cut_bind program continuation calls store with same | ⟨rest, same⟩
      · rw [same]
        exact .inl (.cutOff calls)
      · rw [same]
        exact .inr (.cutOff rest)

variable [Honest σ]

theorem WritesWithin.run {program : Program α} (writes : program.WritesWithin allowed)
    {buffered : Buffered σ} (within : buffered.Within allowed) :
    (program.run buffered).2.Within allowed := by
  -- A call does what it does to the shelf, or nothing.
  have call : ∀ {α : Type} {able : Buffered σ → Prop} {buffered : Buffered σ}
      {real : Except StoreFailure α × Buffered σ} {ideal : Except StoreFailure α × Shelf},
      Honours Honest.shelf Honest.CanRead Honest.CanWrite able buffered real ideal →
      (Honest.shelf buffered).Within allowed → ideal.2.Within allowed →
      (Honest.shelf real.2).Within allowed := by
    intro α able buffered real ideal honours before after
    rcases honours.outcome with ⟨_, same⟩ | ⟨_, same⟩
    · exact same ▸ after
    · exact same ▸ before
  induction program generalizing buffered with
  | done result => exact within
  | get location next induction =>
      apply induction _ (writes _)
      exact ⟨call (Honest.get location buffered) within.current within.current, within.durable⟩
  | set location value next induction =>
      apply induction _ (writes.2 _)
      exact ⟨call (Honest.set location value buffered) within.current
        (within.current.set writes.1), within.durable⟩
  | remove location next induction =>
      apply induction _ (writes.2 _)
      exact ⟨call (Honest.remove location buffered) within.current
        (within.current.put writes.1), within.durable⟩
  | commit space next induction =>
      apply induction _ (writes _)
      -- Only here does what is durable change: a namespace becomes what it is in the store.
      have current := call (Honest.commit space buffered) within.current within.current
      refine ⟨current, ?_⟩
      show (buffered.keep space _ (Backend.commit space buffered).1).Within allowed
      cases (Backend.commit space buffered).1 with
      | ok => exact within.durable.adopt current space
      | error failure => exact within.durable

theorem WritesWithin.stops {program : Program α} (writes : program.WritesWithin allowed)
    {before after : Buffered σ} (within : before.Within allowed)
    (stops : program.Stops before after) : after.Within allowed := by
  cases stops with
  | finished => exact writes.run within
  | cutOff calls => exact (writes.cut calls).run within

end Program

/-! ## Actions -/

namespace Action

variable {α β : Type} {allowed : Location → Option Octets → Prop}

def WritesWithin (allowed : Location → Option Octets → Prop) (action : Action α) : Prop :=
  Program.WritesWithin allowed action.run

theorem WritesWithin.bind {action : Action α} {continuation : α → Action β}
    (first : action.WritesWithin allowed)
    (second : ∀ value, (continuation value).WritesWithin allowed) :
    (action >>= continuation).WritesWithin allowed := by
  apply Program.WritesWithin.bind first
  intro result
  cases result with
  | ok value => exact second value
  | error failure => trivial

theorem writesWithin_commit (space : String) : (commit space).WritesWithin allowed :=
  fun _ => trivial

def Stops {σ : Type} [Backend σ] (action : Action α) (store after : σ) : Prop :=
  Program.Stops action.run store after

theorem Stops.of_bind {σ : Type} [Backend σ] {action : Action α} {continuation : α → Action β}
    {store after : σ} (stops : (action >>= continuation).Stops store after) :
    action.Stops store after ∨ ∃ value, (action.perform store).1 = .ok value ∧
      (continuation value).Stops (action.perform store).2 after := by
  rcases Program.Stops.of_bind stops with first | second
  · exact .inl first
  · change Program.Stops (ExceptT.bindCont continuation (action.perform store).1)
      (action.perform store).2 after at second
    cases result : (action.perform store).1 with
    | ok value =>
        rw [result] at second
        exact .inr ⟨value, rfl, second⟩
    | error failure =>
        -- After a failure no call of the second part is made.
        rw [result] at second
        cases second with
        | finished => exact .inl .finished
        | cutOff calls =>
            show Program.Stops _ _ ((Program.cut calls (.done _)).run _).2 ∨ _
            rw [Program.cut]
            exact .inl .finished

end Action

namespace Cell

open DeviceAuth.Action (WritesWithin)

variable {allowed : Location → Option Octets → Prop}

theorem writesWithin_write {cell : Cell} {value : Octets}
    (fine : allowed cell.location (some value)) : (cell.write value).WritesWithin allowed :=
  ⟨fine, fun _ => trivial⟩

theorem writesWithin_clear {cell : Cell} (fine : allowed cell.location none) :
    cell.clear.WritesWithin allowed :=
  ⟨fine, fun _ => trivial⟩

theorem writesWithin_clearAll {cells : List Cell}
    (fine : ∀ cell ∈ cells, allowed cell.location none) :
    (clearAll cells).WritesWithin allowed := by
  induction cells with
  | nil => trivial
  | cons cell rest induction =>
      rw [List.forall_mem_cons] at fine
      exact (writesWithin_clear fine.1).bind fun _ => induction fine.2

end Cell

/-! ## Interruptions -/

namespace Credentials

/-- What may be left of a shelf by an operation that was tried any number of times. Each time
it came to its end, failed or was cut off, on a store any call of which might fail, and then
the power went. -/
inductive Interrupted (operation : Operation) (before : Shelf) : Shelf → Prop
  | untried : Interrupted operation before before
  | again {σ : Type} [Backend σ] [Honest σ] {store : σ} {calls : Option Nat} {left : Shelf}
      (earlier : Interrupted operation before (Honest.shelf store))
      (mayLeave : (Trial.step ⟨operation, calls⟩ (Buffered.settled store)).MayLeave left) :
      Interrupted operation before left

variable {σ : Type} [Backend σ]

theorem Trial.stops (trial : Trial) (store : σ) :
    trial.operation.action.Stops store (trial.step store) := by
  unfold step
  split
  next => exact .finished
  next calls _ => exact .cutOff calls

theorem Interrupted.preserves {operation : Operation} {before left : Shelf} {Good : Shelf → Prop}
    (interrupted : Interrupted operation before left) (start : Good before)
    (attempt : ∀ {σ : Type} [Backend σ] [Honest σ] {store : σ} {after : Buffered σ} {left : Shelf},
      Good (Honest.shelf store) → operation.action.Stops (Buffered.settled store) after →
        after.MayLeave left → Good left) : Good left := by
  induction interrupted with
  | untried => exact start
  | @again _ _ _ store calls _ _ mayLeave good =>
      exact attempt good (Trial.stops ⟨operation, calls⟩ (Buffered.settled store)) mayLeave

end Credentials

end DeviceAuth
