import DeviceAuth.Storage.Backend
import DeviceAuth.Text.Quoted

/-! Storage in a directory. Each namespace is a directory and each key a file in it;
a key with slashes in it names a file in directories of its own. A value is
written to a file beside the one it belongs to, and then moved into place. -/

namespace DeviceAuth

inductive FileNode where
  | file (content : Octets)
  | directory (entries : List (String × FileNode))
deriving Repr

inductive FileFailure where
  | notFound
  | alreadyExists
  | notADirectory
  | isADirectory
  | nameTooLong
  | invalidName
deriving DecidableEq, Repr

namespace FileFailure

def message : FileFailure → String
  | .notFound => "No such file or directory (os error 2)"
  | .alreadyExists => "File exists (os error 17)"
  | .notADirectory => "Not a directory (os error 20)"
  | .isADirectory => "Is a directory (os error 21)"
  | .nameTooLong => "File name too long (os error 36)"
  | .invalidName => "file name contained an unexpected NUL byte"

end FileFailure

namespace FileNode

def child? (name : String) : List (String × FileNode) → Option FileNode
  | [] => none
  | (other, node) :: rest => if other = name then some node else child? name rest

def putEntry (name : String) (node : FileNode) :
    List (String × FileNode) → List (String × FileNode)
  | [] => [(name, node)]
  | (other, present) :: rest =>
      if other = name then (name, node) :: rest
      else (other, present) :: putEntry name node rest

def dropEntry (name : String) (entries : List (String × FileNode)) :
    List (String × FileNode) :=
  entries.filter fun entry => entry.1 ≠ name

def greatestName : Nat := 255

def entriesFor (name : String) : FileNode → Except FileFailure (List (String × FileNode))
  | .file _ => .error .notADirectory
  | .directory entries =>
      if greatestName < name.utf8ByteSize then .error .nameTooLong else .ok entries

def find (node : FileNode) : List String → Except FileFailure FileNode
  | [] => .ok node
  | name :: rest =>
      match node.entriesFor name with
      | .error failure => .error failure
      | .ok entries =>
          match child? name entries with
          | none => .error .notFound
          | some child => child.find rest

def change (alter : Option FileNode → Except FileFailure (Option FileNode)) (node : FileNode) :
    List String → Except FileFailure FileNode
  | [] => .error .isADirectory
  | [name] =>
      match node.entriesFor name with
      | .error failure => .error failure
      | .ok entries =>
          match alter (child? name entries) with
          | .error failure => .error failure
          | .ok (some child) => .ok (.directory (putEntry name child entries))
          | .ok none => .ok (.directory (dropEntry name entries))
  | name :: rest =>
      match node.entriesFor name with
      | .error failure => .error failure
      | .ok entries =>
          match child? name entries with
          | none => .error .notFound
          | some child =>
              match change alter child rest with
              | .error failure => .error failure
              | .ok child => .ok (.directory (putEntry name child entries))

def createDirectories (node : FileNode) : List String → Except FileFailure FileNode
  | [] =>
      match node with
      | .file _ => .error .alreadyExists
      | .directory _ => .ok node
  | name :: rest =>
      match node.entriesFor name with
      | .error failure => .error failure
      | .ok entries =>
          match createDirectories ((child? name entries).getD (.directory [])) rest with
          | .error failure => .error failure
          | .ok child => .ok (.directory (putEntry name child entries))

def readFile (node : FileNode) (path : List String) : Except FileFailure Octets :=
  match node.find path with
  | .ok (.file content) => .ok content
  | .ok (.directory _) => .error .isADirectory
  | .error failure => .error failure

def writeFile (node : FileNode) (path : List String) (content : Octets) :
    Except FileFailure FileNode :=
  node.change (fun present =>
    match present with
    | some (.directory _) => .error .isADirectory
    | _ => .ok (some (.file content))) path

def removeFile (node : FileNode) (path : List String) : Except FileFailure FileNode :=
  node.change (fun present =>
    match present with
    | none => .error .notFound
    | some (.directory _) => .error .isADirectory
    | some (.file _) => .ok none) path

mutual

def files (path : List String) : FileNode → List (List String × Octets)
  | .file content => [(path, content)]
  | .directory entries => entryFiles path entries

def entryFiles (path : List String) : List (String × FileNode) → List (List String × Octets)
  | [] => []
  | (name, node) :: rest => files (path ++ [name]) node ++ entryFiles path rest

end

end FileNode

structure Directory where
  root : String
  tree : FileNode := .directory []

namespace Directory

def standardName : String := ".teddy-auth-esp32"

def pieces (text : List Char) : List (List Char) :=
  text.foldr
    (fun character pieces =>
      if character = '/' then [] :: pieces
      else
        match pieces with
        | [] => [[character]]
        | first :: rest => (character :: first) :: rest)
    [[]]

def names (text : String) : List String :=
  ((pieces text.toList).filter fun piece => piece ≠ [] ∧ piece ≠ ['.']).map String.ofList

def tree? (files : List (String × Octets)) : Option FileNode :=
  files.foldlM
    (fun tree (name, content) => do
      let there ← (tree.createDirectories (names name).dropLast).toOption
      (there.writeFile (names name) content).toOption)
    (.directory [])

def path (location : Location) : List String := names location.space ++ names location.key

def asksForDirectory (location : Location) : Bool := location.key.toList.getLast? = some '/'

def isNameable (location : Location) : Bool :=
  !(location.space.toList.contains '\x00' || location.key.toList.contains '\x00')

/-- A name without its extension. A point at the front begins no extension. -/
def stem (name : List Char) : List Char :=
  let front := (name.reverse.dropWhile (· != '.')).drop 1
  if front.isEmpty then name else front.reverse

def draftName (name : String) : String := String.ofList (stem name.toList ++ ".tmp".toList)

def draftPath (path : List String) : List String :=
  match path.getLast? with
  | some name => path.dropLast ++ [draftName name]
  | none => []

def openAt (root : String) (node : FileNode) (path : List String) :
    Except StoreFailure Directory :=
  match (node.createDirectories path).bind fun created => created.find path with
  | .ok tree => .ok ⟨root, tree⟩
  | .error failure =>
      .error (.unavailable ("cannot create " ++ Text.Quoted.encode root ++ ": " ++ failure.message))

def home? (files : List (String × Octets)) : Option FileNode :=
  (tree? files).map fun tree => .directory [(standardName, tree)]

def openDefault (home : Option String) (node : FileNode) : Except StoreFailure Directory :=
  match home with
  | none => .error (.unavailable "HOME not set")
  | some home => openAt (home ++ "/" ++ standardName) node [standardName]

def read (directory : Directory) (location : Location) : Except FileFailure Octets :=
  if !isNameable location then .error .invalidName
  else
    match directory.tree.readFile (path location) with
    | .ok content => if asksForDirectory location then .error .notADirectory else .ok content
    | .error failure => .error failure

def moveDraft (tree : FileNode) (location : Location) (value : Octets) :
    Except FileFailure FileNode := do
  if asksForDirectory location then throw .notADirectory
  let draft := draftPath (path location)
  if draft = path location then return tree
  let written ← tree.writeFile (path location) value
  written.removeFile draft

/-- Write the file for a location. If the value cannot be moved into place, the
draft stays behind. -/
def write (directory : Directory) (location : Location) (value : Octets) :
    Except FileFailure Unit × Directory :=
  if !isNameable location then (.error .invalidName, directory)
  else
    match directory.tree.createDirectories (path location).dropLast with
    | .error failure => (.error failure, directory)
    | .ok tree =>
        match tree.writeFile (draftPath (path location)) value with
        | .error failure => (.error failure, { directory with tree := tree })
        | .ok drafted =>
            match moveDraft drafted location value with
            | .error failure => (.error failure, { directory with tree := drafted })
            | .ok written => (.ok (), { directory with tree := written })

def delete (directory : Directory) (location : Location) :
    Except FileFailure Unit × Directory :=
  if !isNameable location then (.error .invalidName, directory)
  else
    match directory.tree.removeFile (path location) with
    | .error failure => (.error failure, directory)
    | .ok tree =>
        if asksForDirectory location then (.error .notADirectory, directory)
        else (.ok (), { directory with tree := tree })

instance : Backend Directory where
  get location directory :=
    match directory.read location with
    | .ok content => (.ok (some content), directory)
    | .error .notFound => (.ok none, directory)
    | .error failure => (.error (.read location failure.message), directory)
  set location value directory :=
    match Backend.refusal? location value with
    | some reason => (.error (.write location reason), directory)
    | none =>
        match directory.write location value with
        | (.ok (), directory) => (.ok (), directory)
        | (.error failure, directory) => (.error (.write location failure.message), directory)
  remove location directory :=
    match directory.delete location with
    | (.ok (), directory) => (.ok (), directory)
    | (.error .notFound, directory) => (.ok (), directory)
    | (.error failure, directory) => (.error (.write location failure.message), directory)
  commit _ directory := (.ok (), directory)

def files (directory : Directory) : List (String × Octets) :=
  (directory.tree.files []).map fun (path, content) => ("/".intercalate path, content)

end Directory

end DeviceAuth
