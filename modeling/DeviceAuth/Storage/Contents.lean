import DeviceAuth.Storage.Location
import DeviceAuth.Text.Octets

/-! Contents of a store: a finite map from locations to octets. A location that is
set again keeps its place in the list, so a location occurs once. -/

namespace DeviceAuth

structure Contents where
  entries : List (Location × Octets) := []
deriving DecidableEq, Repr

namespace Contents

def empty : Contents := {}

private def getFrom (location : Location) : List (Location × Octets) → Option Octets
  | [] => none
  | (other, value) :: rest => if other = location then some value else getFrom location rest

private def setIn (location : Location) (value : Octets) :
    List (Location × Octets) → List (Location × Octets)
  | [] => [(location, value)]
  | (other, present) :: rest =>
      if other = location then (location, value) :: rest
      else (other, present) :: setIn location value rest

def get? (contents : Contents) (location : Location) : Option Octets :=
  getFrom location contents.entries

def set (contents : Contents) (location : Location) (value : Octets) : Contents :=
  ⟨setIn location value contents.entries⟩

def remove (contents : Contents) (location : Location) : Contents :=
  ⟨contents.entries.filter fun entry => entry.1 ≠ location⟩

def size (contents : Contents) : Nat := contents.entries.length

@[simp] theorem get?_empty (location : Location) : empty.get? location = none := rfl

private theorem getFrom_setIn_same (location : Location) (value : Octets)
    (entries : List (Location × Octets)) :
    getFrom location (setIn location value entries) = some value := by
  induction entries with
  | nil => simp [setIn, getFrom]
  | cons entry rest induction =>
      obtain ⟨other, present⟩ := entry
      by_cases same : other = location <;> simp [setIn, getFrom, same, induction]

private theorem getFrom_setIn_other {location other : Location} (different : other ≠ location)
    (value : Octets) (entries : List (Location × Octets)) :
    getFrom other (setIn location value entries) = getFrom other entries := by
  induction entries with
  | nil => simp [setIn, getFrom, different.symm]
  | cons entry rest induction =>
      obtain ⟨third, present⟩ := entry
      by_cases same : third = location
      · subst same
        simp [setIn, getFrom, different.symm]
      · simp [setIn, getFrom, same, induction]

@[simp] theorem get?_set_same (contents : Contents) (location : Location) (value : Octets) :
    (contents.set location value).get? location = some value :=
  getFrom_setIn_same location value contents.entries

theorem get?_set_other (contents : Contents) {location other : Location}
    (different : other ≠ location) (value : Octets) :
    (contents.set location value).get? other = contents.get? other :=
  getFrom_setIn_other different value contents.entries

private theorem getFrom_filter_same (location : Location) (entries : List (Location × Octets)) :
    getFrom location (entries.filter fun entry => entry.1 ≠ location) = none := by
  induction entries with
  | nil => rfl
  | cons entry rest induction =>
      by_cases same : entry.1 = location
      · simpa [List.filter_cons, same] using induction
      · rw [List.filter_cons_of_pos (by simpa using same)]
        obtain ⟨other, present⟩ := entry
        simpa [getFrom, same] using induction

private theorem getFrom_filter_other {location other : Location} (different : other ≠ location)
    (entries : List (Location × Octets)) :
    getFrom other (entries.filter fun entry => entry.1 ≠ location) = getFrom other entries := by
  induction entries with
  | nil => rfl
  | cons entry rest induction =>
      obtain ⟨third, present⟩ := entry
      by_cases same : third = location
      · subst same
        rw [List.filter_cons_of_neg (by simp), induction]
        simp [getFrom, different.symm]
      · rw [List.filter_cons_of_pos (by simpa using same)]
        simp only [getFrom, induction]

@[simp] theorem get?_remove_same (contents : Contents) (location : Location) :
    (contents.remove location).get? location = none :=
  getFrom_filter_same location contents.entries

theorem get?_remove_other (contents : Contents) {location other : Location}
    (different : other ≠ location) :
    (contents.remove location).get? other = contents.get? other :=
  getFrom_filter_other different contents.entries

end Contents

end DeviceAuth
