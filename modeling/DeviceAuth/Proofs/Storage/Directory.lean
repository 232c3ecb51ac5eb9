import DeviceAuth.Proofs.Storage.Contracts
import DeviceAuth.Storage.Directory

/-! Directories as shelves. A store in a directory keeps each cell in a file of its own, one
directory below, and a draft beside it only while a value is written. So what can be read
from the directory is a shelf on which nothing lies but the values of the cells, and each call
about a cell does to the directory what it does to the shelf. -/

namespace DeviceAuth

namespace Shelf

variable {shelf : Shelf} {location other : Location}

theorem put_of_look (empty : shelf.look location = none) : shelf.put location none = shelf := by
  refine congrArg Shelf.mk (funext fun name => ?_)
  split
  next same => rw [same, empty]
  next => rfl

theorem put_put_put_none (different : other ≠ location) (empty : shelf.look other = none)
    (aside : Option Octets) (value : Option Octets) :
    ((shelf.put other aside).put location value).put other none = shelf.put location value := by
  refine congrArg Shelf.mk (funext fun name => ?_)
  by_cases same : name = other
  · rw [if_pos same, if_neg (same ▸ different), same, empty]
  · rw [if_neg same]
    by_cases here : name = location
    · rw [here, look_put_same, if_pos rfl]
    · rw [look_put_other here, look_put_other same, if_neg here]

end Shelf

/-! ## Entries -/

namespace FileNode

variable {name other : String}

theorem child?_putEntry_same (name : String) (node : FileNode)
    (entries : List (String × FileNode)) :
    child? name (putEntry name node entries) = some node := by
  induction entries with
  | nil => exact if_pos rfl
  | cons entry rest induction =>
      rcases entry with ⟨present, kept⟩
      by_cases same : present = name
      · rw [putEntry, if_pos same]
        exact if_pos rfl
      · rw [putEntry, if_neg same, child?, if_neg same, induction]

theorem child?_putEntry_other (different : other ≠ name) (node : FileNode)
    (entries : List (String × FileNode)) :
    child? other (putEntry name node entries) = child? other entries := by
  induction entries with
  | nil => exact if_neg different.symm
  | cons entry rest induction =>
      rcases entry with ⟨present, kept⟩
      by_cases same : present = name
      · rw [putEntry, if_pos same, child?, child?, same, if_neg different.symm,
          if_neg different.symm]
      · rw [putEntry, if_neg same, child?, child?, induction]

theorem child?_dropEntry_same (name : String) (entries : List (String × FileNode)) :
    child? name (dropEntry name entries) = none := by
  induction entries with
  | nil => rfl
  | cons entry rest induction =>
      by_cases same : entry.1 = name
      · rw [dropEntry, List.filter_cons_of_neg (by simpa using same)]
        exact induction
      · rw [dropEntry, List.filter_cons_of_pos (by simpa using same), child?, if_neg same]
        exact induction

theorem child?_dropEntry_other (different : other ≠ name)
    (entries : List (String × FileNode)) :
    child? other (dropEntry name entries) = child? other entries := by
  induction entries with
  | nil => rfl
  | cons entry rest induction =>
      by_cases same : entry.1 = name
      · rw [dropEntry, List.filter_cons_of_neg (by simpa using same), child?, same,
          if_neg different.symm]
        exact induction
      · rw [dropEntry, List.filter_cons_of_pos (by simpa using same), child?, child?]
        exact congrArg _ induction

def IsShort (name : String) : Prop := name.utf8ByteSize ≤ greatestName

theorem entriesFor_directory (short : IsShort name) (entries : List (String × FileNode)) :
    entriesFor name (.directory entries) = .ok entries := if_neg (Nat.not_lt.mpr short)

theorem change_pair (short : IsShort name) (entries : List (String × FileNode))
    (alter : Option FileNode → Except FileFailure (Option FileNode)) :
    (directory entries).change alter [name, other] =
      match child? name entries with
      | none => .error .notFound
      | some child =>
          match child.change alter [other] with
          | .error failure => .error failure
          | .ok child => .ok (.directory (putEntry name child entries)) := by
  unfold FileNode.change
  rw [entriesFor_directory short]
  rfl

/-! ## Trees that show a shelf -/

/-- The directory of a namespace holds a file for each of its values, and nothing else. It
may be missing if there are none. -/
def ShowsSpace (shelf : Shelf) (space : String) : Option FileNode → Prop
  | none => ∀ key, shelf.look ⟨space, key⟩ = none
  | some (.file _) => False
  | some (.directory keys) =>
      ∀ key, child? key keys = (shelf.look ⟨space, key⟩).map FileNode.file

def Shows (shelf : Shelf) : FileNode → Prop
  | .file _ => False
  | .directory spaces => ∀ space, ShowsSpace shelf space (child? space spaces)

def HasSpace (space : String) : FileNode → Prop
  | .file _ => False
  | .directory spaces => ∃ keys, child? space spaces = some (.directory keys)

variable {shelf : Shelf} {tree : FileNode} {space key : String}

theorem shows_empty (empty : ∀ location, shelf.look location = none) :
    Shows shelf (.directory []) := fun space key => empty ⟨space, key⟩

theorem ShowsSpace.put {node : Option FileNode} (shows_ : ShowsSpace shelf other node)
    (different : other ≠ space) (value : Option Octets) :
    ShowsSpace (shelf.put ⟨space, key⟩ value) other node := by
  have kept : ∀ name,
      (shelf.put ⟨space, key⟩ value).look ⟨other, name⟩ = shelf.look ⟨other, name⟩ :=
    fun name => Shelf.look_put_other (fun same => different (congrArg Location.space same)) _ _
  match node, shows_ with
  | none, shows_ => exact fun name => (kept name).trans (shows_ name)
  | some (.directory keys), shows_ =>
      intro name
      rw [kept]
      exact shows_ name

theorem Shows.change {spaces keys changed : List (String × FileNode)} {value : Option Octets}
    (shows_ : Shows shelf (.directory spaces))
    (present : child? space spaces = some (.directory keys))
    (same : child? key changed = value.map FileNode.file)
    (others : ∀ name, name ≠ key → child? name changed = child? name keys) :
    Shows (shelf.put ⟨space, key⟩ value)
      (.directory (putEntry space (.directory changed) spaces)) := by
  intro other
  by_cases equal : other = space
  · rw [equal, child?_putEntry_same]
    intro name
    have before := shows_ space
    rw [present] at before
    by_cases here : name = key
    · rw [here, same, Shelf.look_put_same]
    · have elsewhere : (⟨space, name⟩ : Location) ≠ ⟨space, key⟩ :=
        fun equal => here (congrArg Location.key equal)
      rw [others name here, before name, Shelf.look_put_other elsewhere]
  · rw [child?_putEntry_other equal]
    exact (shows_ other).put equal value

theorem hasSpace_putEntry (space : String) (keys spaces : List (String × FileNode)) :
    HasSpace space (.directory (putEntry space (.directory keys) spaces)) :=
  ⟨keys, child?_putEntry_same space _ spaces⟩

/-! ## Calls about a file -/

section Calls

variable (location : Location) (shortSpace : IsShort location.space)
  (shortKey : IsShort location.key)

include shortSpace shortKey

theorem readFile_of_shows (shows_ : Shows shelf tree) :
    tree.readFile [location.space, location.key] =
      match shelf.look location with
      | some content => .ok content
      | none => .error .notFound := by
  match tree, shows_ with
  | .directory spaces, shows_ =>
      have shown := shows_ location.space
      rw [readFile, find, entriesFor_directory shortSpace]
      dsimp only
      cases present : child? location.space spaces with
      | none =>
          rw [present] at shown
          rw [shown location.key]
      | some node =>
          rw [present] at shown
          match node, shown with
          | .directory keys, shown =>
              dsimp only
              rw [find, entriesFor_directory shortKey]
              dsimp only
              rw [shown location.key]
              cases shelf.look location with
              | none => rfl
              | some content => rfl

theorem writeFile_of_shows (shows_ : Shows shelf tree) (has : HasSpace location.space tree)
    (content : Octets) :
    ∃ after, tree.writeFile [location.space, location.key] content = .ok after ∧
      Shows (shelf.put location (some content)) after ∧ HasSpace location.space after := by
  match tree, shows_, has with
  | .directory spaces, shows_, ⟨keys, present⟩ =>
      have shown := shows_ location.space
      rw [present] at shown
      refine ⟨.directory (putEntry location.space (.directory (putEntry location.key (.file content) keys)) spaces),
        ?written, ?shows_, hasSpace_putEntry _ _ _⟩
      case written =>
        rw [writeFile, change_pair shortSpace, present]
        dsimp only
        rw [FileNode.change, entriesFor_directory shortKey]
        dsimp only
        rw [shown location.key]
        cases shelf.look location with
        | none => rfl
        | some present => rfl
      case shows_ =>
        exact shows_.change present (child?_putEntry_same location.key _ keys)
          fun _ different => child?_putEntry_other different _ keys

theorem removeFile_of_shows (shows_ : Shows shelf tree) :
    match shelf.look location with
    | none => tree.removeFile [location.space, location.key] = .error .notFound
    | some _ => ∃ after, tree.removeFile [location.space, location.key] = .ok after ∧
        Shows (shelf.put location none) after := by
  match tree, shows_ with
  | .directory spaces, shows_ =>
      have shown := shows_ location.space
      rw [removeFile, change_pair shortSpace]
      cases present : child? location.space spaces with
      | none =>
          rw [present] at shown
          rw [shown location.key]
      | some node =>
          rw [present] at shown
          match node, shown with
          | .directory keys, shown =>
              dsimp only
              rw [FileNode.change, entriesFor_directory shortKey]
              dsimp only
              rw [shown location.key]
              cases shelf.look location with
              | none => rfl
              | some content =>
                  exact ⟨_, rfl, shows_.change present (child?_dropEntry_same location.key keys)
                    fun _ different => child?_dropEntry_other different keys⟩

end Calls

theorem find_eq_ok {entries : List (String × FileNode)} {rest : List String} {node : FileNode}
    (found : find (.directory entries) (name :: rest) = .ok node) :
    ∃ child, child? name entries = some child ∧ child.find rest = .ok node := by
  rw [find, entriesFor] at found
  split at found
  next => cases found
  next others taken =>
    split at taken
    next => cases taken
    next =>
      cases taken
      split at found
      next => cases found
      next child present => exact ⟨child, present, found⟩

theorem exists_of_readFile (shows_ : Shows shelf tree) {path : List String} {content : Octets}
    (read : tree.readFile path = .ok content) :
    ∃ location : Location, path = [location.space, location.key] ∧
      shelf.look location = some content := by
  have found : tree.find path = .ok (.file content) := by
    rw [readFile] at read
    split at read
    next found => rw [found, Except.ok.inj read]
    next => cases read
    next => cases read
  match tree, shows_, path with
  | .directory spaces, shows_, [] => cases found
  | .directory spaces, shows_, space :: rest =>
      obtain ⟨child, present, found⟩ := find_eq_ok found
      have shown := shows_ space
      rw [present] at shown
      match child, shown, rest with
      | .directory keys, shown, [] => cases found
      | .directory keys, shown, key :: rest =>
          obtain ⟨child, present, found⟩ := find_eq_ok found
          obtain ⟨value, stored, rfl⟩ := Option.map_eq_some_iff.mp ((shown key).symm.trans present)
          match rest with
          | [] =>
              cases found
              exact ⟨⟨space, key⟩, rfl, stored⟩
          | _ :: _ => cases found

theorem createDirectories_of_shows (short : IsShort space) (shows_ : Shows shelf tree) :
    ∃ after, tree.createDirectories [space] = .ok after ∧ Shows shelf after ∧
      HasSpace space after := by
  match tree, shows_ with
  | .directory spaces, shows_ =>
      have created : ∃ keys,
          createDirectories ((child? space spaces).getD (.directory [])) [] =
            .ok (.directory keys) ∧ ShowsSpace shelf space (some (.directory keys)) := by
        have shown := shows_ space
        cases present : child? space spaces with
        | none =>
            rw [present] at shown
            refine ⟨[], rfl, fun key => ?_⟩
            rw [shown key]
            rfl
        | some node =>
            rw [present] at shown
            match node, shown with
            | .directory keys, shown => exact ⟨keys, rfl, shown⟩
      obtain ⟨keys, created, shown⟩ := created
      refine ⟨.directory (putEntry space (.directory keys) spaces), ?_, ?_,
        hasSpace_putEntry _ _ _⟩
      · rw [createDirectories, entriesFor_directory short]
        dsimp only
        rw [created]
      · intro other
        by_cases equal : other = space
        · rw [equal, child?_putEntry_same]
          exact shown
        · rw [child?_putEntry_other equal]
          exact shows_ other

end FileNode

/-! ## Stores in directories -/

namespace Directory

open FileNode (IsShort)

def draft (location : Location) : Location := ⟨location.space, draftName location.key⟩

/-- A location that is kept in one file, one directory below, with a draft that is not taken
for a value. -/
structure IsFiled (location : Location) : Prop where
  path : path location = [location.space, location.key]
  draftPath : draftPath [location.space, location.key] =
    [(draft location).space, (draft location).key]
  nameable : isNameable location = true
  asksForFile : asksForDirectory location = false
  space : IsShort location.space
  key : IsShort location.key
  draftKey : IsShort (draft location).key
  noCell : ∀ cell : Cell, draft location ≠ cell.location

theorem isFiled (cell : Cell) : IsFiled cell.location := by
  have path : ∀ cell ∈ Cell.all, path cell.location = [cell.location.space, cell.location.key] := by
    decide
  have draftPath : ∀ cell ∈ Cell.all, draftPath [cell.location.space, cell.location.key] =
      [(draft cell.location).space, (draft cell.location).key] := by decide
  have nameable : ∀ cell ∈ Cell.all, isNameable cell.location = true := by decide
  have asksForFile : ∀ cell ∈ Cell.all, asksForDirectory cell.location = false := by decide
  have short : ∀ cell ∈ Cell.all, cell.location.space.utf8ByteSize ≤ FileNode.greatestName ∧
      cell.location.key.utf8ByteSize ≤ FileNode.greatestName ∧
        (draft cell.location).key.utf8ByteSize ≤ FileNode.greatestName := by decide
  have noCell : ∀ cell ∈ Cell.all, ∀ other ∈ Cell.all, draft cell.location ≠ other.location := by
    decide
  have member := cell.mem_all
  exact ⟨path cell member, draftPath cell member, nameable cell member, asksForFile cell member,
    (short cell member).1, (short cell member).2.1, (short cell member).2.2,
    fun other => noCell cell member other other.mem_all⟩

structure Shows (shelf : Shelf) (directory : Directory) : Prop where
  tree : directory.tree.Shows shelf
  onlyCells : ∀ location, shelf.look location ≠ none → ∃ cell : Cell, location = cell.location

theorem shows_empty {shelf : Shelf} (empty : ∀ location, shelf.look location = none)
    (root : String) : Shows shelf ⟨root, .directory []⟩ :=
  ⟨FileNode.shows_empty empty, fun location present => absurd (empty location) present⟩

variable {shelf : Shelf} {directory : Directory}

theorem Shows.look_draft (shows_ : Shows shelf directory) (cell : Cell) :
    shelf.look (draft cell.location) = none := by
  by_contra present
  obtain ⟨other, same⟩ := shows_.onlyCells _ present
  exact (isFiled cell).noCell other same

theorem Shows.put (shows_ : Shows shelf directory) {cell : Cell} {value : Option Octets}
    {after : FileNode} (changed : after.Shows (shelf.put cell.location value)) :
    Shows (shelf.put cell.location value) { directory with tree := after } where
  tree := changed
  onlyCells := by
    intro location present
    by_cases same : location = cell.location
    · exact ⟨cell, same⟩
    · rw [Shelf.look_put_other same] at present
      exact shows_.onlyCells location present

/-! ## Calls about a cell -/

structure Resembles {α : Type} (real : α × Directory) (ideal : α × Shelf) : Prop where
  result : real.1 = ideal.1
  shows_ : Shows ideal.2 real.2

theorem read_of_shows (shows_ : Shows shelf directory) (cell : Cell) :
    directory.read cell.location =
      match shelf.look cell.location with
      | some content => .ok content
      | none => .error .notFound := by
  have filed := isFiled cell
  have read := FileNode.readFile_of_shows cell.location filed.space filed.key shows_.tree
  rw [Directory.read, filed.nameable, filed.path, read, filed.asksForFile]
  cases shelf.look cell.location with
  | none => rfl
  | some content => rfl

theorem get_resembles (shows_ : Shows shelf directory) (cell : Cell) :
    Resembles (Backend.get cell.location directory) (Backend.get cell.location shelf) := by
  have read := read_of_shows shows_ cell
  have get : Backend.get cell.location directory =
      (.ok (shelf.look cell.location), directory) := by
    cases found : shelf.look cell.location with
    | none =>
        rw [found] at read
        simp only [Backend.get, read]
    | some content =>
        rw [found] at read
        simp only [Backend.get, read]
  rw [get]
  exact ⟨rfl, shows_⟩

/-- The draft is written, then it takes the place of the file. -/
theorem write_of_shows (shows_ : Shows shelf directory) (cell : Cell) (value : Octets) :
    ∃ after, directory.write cell.location value = (.ok (), after) ∧
      Shows (shelf.put cell.location (some value)) after := by
  have filed := isFiled cell
  have apart : draft cell.location ≠ cell.location := filed.noCell cell
  obtain ⟨created, create, shown, has⟩ :=
    FileNode.createDirectories_of_shows filed.space shows_.tree
  obtain ⟨drafted, writeDraft, shown, has⟩ :=
    FileNode.writeFile_of_shows (draft cell.location) filed.space filed.draftKey shown has value
  obtain ⟨written, write, shown, _⟩ :=
    FileNode.writeFile_of_shows cell.location filed.space filed.key shown has value
  have removeDraft :=
    FileNode.removeFile_of_shows (draft cell.location) filed.space filed.draftKey shown
  rw [Shelf.look_put_other apart, Shelf.look_put_same] at removeDraft
  obtain ⟨moved, remove, shown⟩ := removeDraft
  have move : moveDraft drafted cell.location value = .ok moved := by
    have different : [(draft cell.location).space, (draft cell.location).key] ≠
        [cell.location.space, cell.location.key] := by
      intro same
      exact apart (congrArg (Location.mk _) (List.cons.inj (List.cons.inj same).2).1)
    rw [moveDraft, filed.asksForFile, filed.path, filed.draftPath]
    simp only [Bool.false_eq_true, if_false, if_neg different, write]
    exact remove
  have gone : ((shelf.put (draft cell.location) (some value)).put cell.location
      (some value)).put (draft cell.location) none = shelf.put cell.location (some value) :=
    Shelf.put_put_put_none apart (shows_.look_draft cell) _ _
  refine ⟨{ directory with tree := moved }, ?_, shows_.put (gone ▸ shown)⟩
  have parent : [cell.location.space, cell.location.key].dropLast = [cell.location.space] := rfl
  rw [Directory.write, filed.nameable, filed.path, parent, create, filed.draftPath]
  simp only [Bool.not_true, Bool.false_eq_true, if_false, writeDraft, move]

theorem set_resembles (shows_ : Shows shelf directory) (cell : Cell) (value : Octets) :
    Resembles (Backend.set cell.location value directory)
      (Backend.set cell.location value shelf) := by
  cases answer : Backend.refusal? cell.location value with
  | some reason =>
      rw [Shelf.set_refused answer]
      simp only [Backend.set, answer]
      exact ⟨rfl, shows_⟩
  | none =>
      obtain ⟨after, written, shown⟩ := write_of_shows shows_ cell value
      rw [Shelf.set_eq answer]
      simp only [Backend.set, answer, written]
      exact ⟨rfl, shown⟩

theorem remove_resembles (shows_ : Shows shelf directory) (cell : Cell) :
    Resembles (Backend.remove cell.location directory) (Backend.remove cell.location shelf) := by
  have filed := isFiled cell
  have removed := FileNode.removeFile_of_shows cell.location filed.space filed.key shows_.tree
  have ideal : Backend.remove cell.location shelf = (.ok (), shelf.put cell.location none) := rfl
  rw [ideal]
  cases found : shelf.look cell.location with
  | none =>
      rw [found] at removed
      rw [Shelf.put_of_look found]
      simp only [Backend.remove, Directory.delete, filed.nameable, filed.path, removed,
        Bool.not_true, Bool.false_eq_true, if_false]
      exact ⟨rfl, shows_⟩
  | some content =>
      rw [found] at removed
      obtain ⟨after, remove, shown⟩ := removed
      simp only [Backend.remove, Directory.delete, filed.nameable, filed.path, remove,
        filed.asksForFile, Bool.not_true, Bool.false_eq_true, if_false]
      exact ⟨rfl, shows_.put shown⟩

/-! ## Programs about cells -/

theorem run_resembles {α : Type} {good : α → Prop} {program : Program α}
    (keeps : program.Keeps .anything good) (shows_ : Shows shelf directory) :
    Resembles (program.run directory) (program.run shelf) := by
  have goOn : ∀ {β : Type} {next : Except StoreFailure β → Program α}
      {real : Except StoreFailure β × Directory} {ideal : Except StoreFailure β × Shelf},
      (∀ answer {directory : Directory} {shelf : Shelf}, Shows shelf directory →
        Resembles ((next answer).run directory) ((next answer).run shelf)) →
      Resembles real ideal →
      Resembles ((next real.1).run real.2) ((next ideal.1).run ideal.2) := by
    intro β next real ideal induction call
    rw [call.result]
    exact induction _ call.shows_
  induction program generalizing directory shelf with
  | done result => exact ⟨rfl, shows_⟩
  | get location next induction =>
      obtain ⟨cell, rfl, rest⟩ := keeps
      exact goOn (fun answer => induction answer (rest answer (.of_anything fun _ _ _ => trivial)))
        (get_resembles shows_ cell)
  | set location value next induction =>
      obtain ⟨cell, rfl, _, rest⟩ := keeps
      exact goOn (fun answer => induction answer (rest answer (.of_anything fun _ => trivial)))
        (set_resembles shows_ cell value)
  | remove location next induction =>
      obtain ⟨cell, rfl, rest⟩ := keeps
      exact goOn (fun answer => induction answer (rest answer (.of_anything fun _ => trivial)))
        (remove_resembles shows_ cell)
  | commit space next induction =>
      have commit : Resembles (Backend.commit space directory) (Backend.commit space shelf) :=
        ⟨rfl, shows_⟩
      exact goOn (fun answer => induction answer (keeps answer (.of_anything fun _ => trivial)))
        commit

end Directory

end DeviceAuth
