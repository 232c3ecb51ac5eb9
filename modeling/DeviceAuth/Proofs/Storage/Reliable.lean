import DeviceAuth.Storage.Memory
import DeviceAuth.Storage.Program

/-! Reliable stores. As long as a store works, its calls succeed unless a value is too
large, and what was put into it can be read again. Such a store is a shelf that also
does something else, and a program cannot tell the two apart. So what has been shown
of programs on a shelf holds of them on every reliable store. -/

namespace DeviceAuth

/-! ## Shelves -/

structure Shelf where
  look : Location → Option Octets

namespace Shelf

def put (location : Location) (value : Option Octets) (shelf : Shelf) : Shelf :=
  ⟨fun other => if other = location then value else shelf.look other⟩

@[simp] theorem look_put_same (location : Location) (value : Option Octets) (shelf : Shelf) :
    (shelf.put location value).look location = value := if_pos rfl

theorem look_put_other {location other : Location} (different : other ≠ location)
    (value : Option Octets) (shelf : Shelf) :
    (shelf.put location value).look other = shelf.look other := if_neg different

theorem look_put_congr {left right : Shelf} {location : Location}
    (same : left.look location = right.look location) (other : Location)
    (value : Option Octets) :
    (left.put other value).look location = (right.put other value).look location := by
  by_cases equal : location = other
  · rw [equal, look_put_same, look_put_same]
  · rw [look_put_other equal, look_put_other equal, same]

instance : Backend Shelf where
  get location shelf := (.ok (shelf.look location), shelf)
  set location value shelf :=
    match Backend.refusal? location value with
    | some reason => (.error (.write location reason), shelf)
    | none => (.ok (), shelf.put location (some value))
  remove location shelf := (.ok (), shelf.put location none)
  commit _ shelf := (.ok (), shelf)

theorem get_eq (location : Location) (shelf : Shelf) :
    Backend.get location shelf = (.ok (shelf.look location), shelf) := rfl

theorem set_eq {location : Location} {value : Octets}
    (accepted : Backend.refusal? location value = none) (shelf : Shelf) :
    Backend.set location value shelf = (.ok (), shelf.put location (some value)) := by
  simp only [Backend.set, accepted]

theorem set_refused {location : Location} {value : Octets} {reason : String}
    (refused : Backend.refusal? location value = some reason) (shelf : Shelf) :
    Backend.set location value shelf = (.error (.write location reason), shelf) := by
  simp only [Backend.set, refused]

theorem look_set_other {location other : Location} (different : other ≠ location)
    (value : Octets) (shelf : Shelf) :
    (Backend.set location value shelf).2.look other = shelf.look other := by
  cases answer : Backend.refusal? location value with
  | some reason => rw [set_refused answer]
  | none =>
      rw [set_eq answer]
      exact look_put_other different _ shelf

def Fits (shelf : Shelf) : Prop :=
  ∀ location value, shelf.look location = some value → value.length ≤ Backend.greatestValue

theorem Fits.put {shelf : Shelf} (fits : shelf.Fits) (location : Location)
    {value : Option Octets}
    (small : ∀ octets, value = some octets → octets.length ≤ Backend.greatestValue) :
    (shelf.put location value).Fits := by
  intro other octets found
  by_cases same : other = location
  · rw [same, look_put_same] at found
    exact small octets found
  · rw [look_put_other same] at found
    exact fits other octets found

theorem Fits.set {shelf : Shelf} (fits : shelf.Fits) (location : Location) (value : Octets) :
    (Backend.set location value shelf).2.Fits := by
  cases answer : Backend.refusal? location value with
  | some reason =>
      rw [set_refused answer]
      exact fits
  | none =>
      rw [set_eq answer]
      apply fits.put
      intro octets equal
      obtain rfl : value = octets := Option.some.inj equal
      exact ((Backend.refusal?_eq_none_iff location value).mp answer).2.2

theorem Fits.run {α : Type} {shelf : Shelf} (fits : shelf.Fits) (program : Program α) :
    (program.run shelf).2.Fits := by
  induction program generalizing shelf with
  | done result => exact fits
  | get location next induction => exact induction _ fits
  | set location value next induction => exact induction _ (fits.set location value)
  | remove location next induction => exact induction _ (fits.put location nofun)
  | commit space next induction => exact induction _ fits

end Shelf

/-! ## Actions -/

namespace Action

variable {α β : Type}

theorem perform_bind_of_ok {σ : Type} [Backend σ] {action : Action α}
    {store middle : σ} {value : α} (first : action.perform store = (.ok value, middle))
    (continuation : α → Action β) :
    (action >>= continuation).perform store = (continuation value).perform middle := by
  rw [perform_bind, first]

theorem perform_bind_ok {σ : Type} [Backend σ] {action : Action α} {continuation : α → Action β}
    {store after : σ} {result : β}
    (performed : (action >>= continuation).perform store = (.ok result, after)) :
    ∃ value middle, action.perform store = (.ok value, middle) ∧
      (continuation value).perform middle = (.ok result, after) := by
  rw [perform_bind] at performed
  split at performed
  next value middle first => exact ⟨value, middle, first, performed⟩
  next => simp at performed

def OnlyReads (action : Action α) : Prop :=
  ∀ shelf : Shelf, (action.perform shelf).2 = shelf

theorem OnlyReads.pure (value : α) : OnlyReads (Pure.pure value : Action α) := fun _ => rfl

theorem OnlyReads.bind {action : Action α} {continuation : α → Action β}
    (first : OnlyReads action) (second : ∀ result, OnlyReads (continuation result)) :
    OnlyReads (action >>= continuation) := by
  intro shelf
  have same := first shelf
  rw [perform_bind]
  split
  next value after performed =>
    rw [performed] at same
    exact (second value after).trans same
  next failure after performed =>
    rw [performed] at same
    exact same

theorem OnlyReads.perform_bind_ok {action : Action α} {continuation : α → Action β}
    (reads : OnlyReads action) {shelf after : Shelf} {result : β}
    (performed : (action >>= continuation).perform shelf = (.ok result, after)) :
    ∃ value, action.perform shelf = (.ok value, shelf) ∧
      (continuation value).perform shelf = (.ok result, after) := by
  obtain ⟨value, middle, first, rest⟩ := Action.perform_bind_ok performed
  obtain rfl : middle = shelf := by
    rw [← reads shelf, first]
  exact ⟨value, first, rest⟩

end Action

/-! ## Reliable stores -/

structure Agrees {σ α : Type} (works : σ → Prop) (shelf : σ → Shelf) (real : α × σ)
    (ideal : α × Shelf) : Prop where
  result : real.1 = ideal.1
  works : works real.2
  shelf : shelf real.2 = ideal.2

/-- A type of stores that can be relied on while they work. -/
class Reliable (σ : Type) [Backend σ] where
  Works : σ → Prop
  shelf : σ → Shelf
  get (location : Location) {store : σ} (works : Works store) :
    Agrees Works shelf (Backend.get location store) (Backend.get location (shelf store))
  set (location : Location) (value : Octets) {store : σ} (works : Works store) :
    Agrees Works shelf (Backend.set location value store)
      (Backend.set location value (shelf store))
  remove (location : Location) {store : σ} (works : Works store) :
    Agrees Works shelf (Backend.remove location store) (Backend.remove location (shelf store))
  commit (space : String) {store : σ} (works : Works store) :
    Agrees Works shelf (Backend.commit space store) (Backend.commit space (shelf store))

namespace Reliable

variable {σ α : Type} [Backend σ] [Reliable σ]

theorem run_agrees (program : Program α) {store : σ} (works : Works store) :
    Agrees Works shelf (program.run store) (program.run (shelf store)) := by
  have goOn : ∀ {β : Type} {next : β → Program α} {real : β × σ} {ideal : β × Shelf},
      (∀ answer {store : σ}, Works store →
        Agrees Works shelf ((next answer).run store) ((next answer).run (shelf store))) →
      Agrees Works shelf real ideal →
      Agrees Works shelf ((next real.1).run real.2) ((next ideal.1).run ideal.2) := by
    intro β next real ideal induction call
    rw [← call.result, ← call.shelf]
    exact induction _ call.works
  induction program generalizing store with
  | done result => exact ⟨rfl, works, rfl⟩
  | get location next induction => exact goOn induction (get location works)
  | set location value next induction => exact goOn induction (set location value works)
  | remove location next induction => exact goOn induction (remove location works)
  | commit space next induction => exact goOn induction (commit space works)

theorem perform_agrees (action : Action α) {store : σ} (works : Works store) :
    Agrees Works shelf (action.perform store) (action.perform (shelf store)) :=
  run_agrees action.run works

instance : Reliable Shelf where
  Works _ := True
  shelf := id
  get _ _ _ := ⟨rfl, trivial, rfl⟩
  set _ _ _ _ := ⟨rfl, trivial, rfl⟩
  remove _ _ _ := ⟨rfl, trivial, rfl⟩
  commit _ _ _ := ⟨rfl, trivial, rfl⟩

end Reliable

/-! ## Storage in memory -/

namespace Memory

def shelf (memory : Memory) : Shelf := ⟨memory.contents.get?⟩

def Works (memory : Memory) : Prop := memory.failReads = false ∧ memory.failWrites = false

theorem shelf_set (location : Location) (value : Octets) (memory : Memory) :
    ({ memory with contents := memory.contents.set location value } : Memory).shelf =
      memory.shelf.put location (some value) := by
  simp only [shelf, Shelf.put, Shelf.mk.injEq]
  funext other
  split
  next same => rw [same, Contents.get?_set_same]
  next different => rw [Contents.get?_set_other _ different]

theorem shelf_remove (location : Location) (memory : Memory) :
    ({ memory with contents := memory.contents.remove location } : Memory).shelf =
      memory.shelf.put location none := by
  simp only [shelf, Shelf.put, Shelf.mk.injEq]
  funext other
  split
  next same => rw [same, Contents.get?_remove_same]
  next different => rw [Contents.get?_remove_other _ different]

instance : Reliable Memory where
  Works := Works
  shelf := shelf
  get location memory works := by
    simp only [Backend.get, works.1]
    exact ⟨rfl, works, rfl⟩
  set location value memory works := by
    cases answer : Backend.refusal? location value with
    | some reason =>
        simp only [Backend.set, works.2, answer]
        exact ⟨rfl, works, rfl⟩
    | none =>
        simp only [Backend.set, works.2, answer]
        exact ⟨rfl, ⟨works.1, rfl⟩, memory.shelf_set location value⟩
  remove location memory works := by
    simp only [Backend.remove, works.2]
    exact ⟨rfl, ⟨works.1, rfl⟩, memory.shelf_remove location⟩
  commit space memory works := by
    simp only [Backend.commit, works.2]
    exact ⟨rfl, works, rfl⟩

end Memory

end DeviceAuth
