import DeviceAuth.Proofs.Storage.Directory
import DeviceAuth.Storage.Memory

/-! Storage in a directory and storage in memory. Whoever uses the credential store cannot
tell whether it is built on the one or on the other: every operation has the same answer, and
the same values are stored, even while an operation goes on. Opening the directory again makes
no difference. -/

namespace DeviceAuth

def Directory.reopen (directory : Directory) : Except StoreFailure Directory :=
  openAt directory.root (.directory [(standardName, directory.tree)]) [standardName]

namespace Credentials

inductive Use where
  | perform (operation : Operation)
  | reopen

namespace Use

def onDirectory : List Use → Directory → Except StoreFailure Directory
  | [], directory => .ok directory
  | .perform operation :: rest, directory =>
      onDirectory rest (operation.call.perform directory).2
  | .reopen :: rest, directory => directory.reopen.bind (onDirectory rest)

def onMemory : List Use → Memory → Memory
  | [], memory => memory
  | .perform operation :: rest, memory => onMemory rest (operation.call.perform memory).2
  | .reopen :: rest, memory => onMemory rest memory

end Use

/-- Each cell has a file if it has a value in memory, and the file holds that value. There are
no other files and no other values. -/
structure SameContents (directory : Directory) (memory : Memory) : Prop where
  read : ∀ cell : Cell, directory.read cell.location =
    match memory.contents.get? cell.location with
    | some content => .ok content
    | none => .error .notFound
  onlyFiles : ∀ path content, directory.tree.readFile path = .ok content →
    ∃ cell : Cell, path = Directory.path cell.location
  onlyValues : ∀ location, memory.contents.get? location ≠ none →
    ∃ cell : Cell, location = cell.location

/-- The same is stored, and every operation has the same answer and stores the same, call by
call. -/
structure Interchangeable (directory : Directory) (memory : Memory) : Prop where
  contents : SameContents directory memory
  answer : ∀ operation : Operation,
    (operation.call.perform directory).1 = (operation.call.perform memory).1
  midway : ∀ (operation : Operation) (calls : Nat),
    SameContents ((operation.call.run.cut calls).run directory).2
      ((operation.call.run.cut calls).run memory).2

/-! ## What a directory shows -/

theorem serves_anything : Contract.anything.Serves :=
  ⟨fun _ _ _ => .inr trivial, fun _ _ => trivial, fun _ _ => trivial⟩

theorem keeps_anything (operation : Operation) :
    operation.call.Keeps .anything fun _ => True :=
  Operation.keeps_call serves_anything fun _ _ _ _ _ => trivial

variable {directory : Directory} {memory : Memory}

theorem onlyFiles_of_shows {shelf : Shelf} (shows_ : Directory.Shows shelf directory)
    {path : List String} {content : Octets} (read : directory.tree.readFile path = .ok content) :
    ∃ cell : Cell, path = Directory.path cell.location := by
  obtain ⟨location, rfl, stored⟩ := FileNode.exists_of_readFile shows_.tree read
  obtain ⟨cell, rfl⟩ := shows_.onlyCells location (Option.isSome_iff_ne_none.mp
    (Option.isSome_of_eq_some stored))
  exact ⟨cell, (Directory.isFiled cell).path.symm⟩

theorem sameContents_of_shows (shows_ : Directory.Shows memory.shelf directory) :
    SameContents directory memory :=
  ⟨Directory.read_of_shows shows_, fun _ _ => onlyFiles_of_shows shows_, shows_.onlyCells⟩

theorem run_memory {α : Type} {good : α → Prop} {program : Program α}
    (keeps : program.Keeps .anything good) (works : memory.Works)
    (shows_ : Directory.Shows memory.shelf directory) :
    (program.run directory).1 = (program.run memory).1 ∧ (program.run memory).2.Works ∧
      Directory.Shows (program.run memory).2.shelf (program.run directory).2 := by
  have agrees := Reliable.run_agrees program (show Reliable.Works memory from works)
  have resembles := Directory.run_resembles keeps shows_
  have shelf : (program.run memory).2.shelf = (program.run memory.shelf).2 := agrees.shelf
  refine ⟨resembles.result.trans agrees.result.symm, agrees.works, ?_⟩
  rw [shelf]
  exact resembles.shows_

theorem interchangeable_of_shows (works : memory.Works)
    (shows_ : Directory.Shows memory.shelf directory) : Interchangeable directory memory where
  contents := sameContents_of_shows shows_
  answer operation := (run_memory (keeps_anything operation) works shows_).1
  midway operation calls :=
    sameContents_of_shows (run_memory ((keeps_anything operation).cut calls) works shows_).2.2

/-! ## Opening a directory -/

theorem reopen_of_shows {shelf : Shelf} (shows_ : Directory.Shows shelf directory) :
    directory.reopen = .ok directory := by
  match directory, shows_.tree with
  | ⟨root, .directory spaces⟩, _ => rfl

theorem shows_onDirectory (uses : List Use) (works : memory.Works)
    (shows_ : Directory.Shows memory.shelf directory) :
    ∃ after, Use.onDirectory uses directory = .ok after ∧
      (Use.onMemory uses memory).Works ∧
        Directory.Shows (Use.onMemory uses memory).shelf after := by
  induction uses generalizing directory memory with
  | nil => exact ⟨directory, rfl, works, shows_⟩
  | cons use rest induction =>
      cases use with
      | perform operation =>
          obtain ⟨_, works, shows_⟩ := run_memory (keeps_anything operation) works shows_
          exact induction works shows_
      | reopen =>
          rw [Use.onDirectory, reopen_of_shows shows_]
          exact induction works shows_

/-- A store in a new directory and a store in memory stay interchangeable, whatever they are
used for. -/
theorem interchangeable_run (root : String) (uses : List Use) :
    ∃ directory,
      (Directory.openAt root (.directory []) [Directory.standardName]).bind
        (Use.onDirectory uses) = .ok directory ∧
      Interchangeable directory (Use.onMemory uses {}) := by
  have works : Memory.Works {} := ⟨rfl, rfl⟩
  obtain ⟨after, opened, works, shows_⟩ :=
    shows_onDirectory uses works (Directory.shows_empty (fun _ => rfl) root)
  exact ⟨after, opened, interchangeable_of_shows works shows_⟩

end Credentials

end DeviceAuth
