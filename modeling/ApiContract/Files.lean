import ApiContract.Assoc
import ApiContract.Fault
import ApiContract.Text.Split
/-!
# Files

Whatever reads or saves a file does so through `Files`, and so runs alike on the files of a machine
and on a `FileStore`, which holds files as a value.

A place in a store is the list of names that leads to it from the root, and the root itself is the
empty list. A path is walked name by name; every name but the last has to lead to a folder. Paths
and names have a greatest length, and no path holds the character NUL.

* `FileStore.read` : the text of a file.
* `FileStore.save` : writes a file and makes the folders on the way to it.
-/

namespace ApiContract

/-- Access to files by their paths. -/
class Files (m : Type → Type) where
  read : String → m (Except Fault String)
  save : String → String → m (Except Fault Unit)

/-- The names that lead to a file or a folder from the root. -/
abbrev Place := List String

/-- Files and folders, and the folder in which paths start unless they start at the root. -/
structure FileStore where
  home : Place := []
  folders : List Place := []
  files : Assoc Place String := []
deriving Repr, Inhabited

namespace FileStore

/-- Whether a place is a folder. -/
def isFolder (s : FileStore) (place : Place) : Bool :=
  place.isPrefixOf s.home || s.folders.contains place

/-- The names in a path. -/
def namesOf (path : String) : List String := (Text.splitOn '/' path.toList).map String.ofList

/-- The greatest number of bytes in a name. -/
def nameLimit : Nat := 255

/-- The greatest number of bytes in a path. -/
def pathLimit : Nat := 4095

/-- Whether a text can be a path. -/
def isPath (path : String) : Bool :=
  path.utf8ByteSize ≤ pathLimit && !path.toList.contains '\x00' &&
    (namesOf path).all (·.utf8ByteSize ≤ nameLimit)

/-- The folder in which a path starts. -/
def start (s : FileStore) (path : String) : Place :=
  if path.toList.head? = some '/' then [] else s.home

/-- Whether a name stays in or leaves its folder, and so can name no file. -/
def isMove (name : String) : Bool := name == "" || name == "." || name == ".."

/-- The place that a name leads to from a folder. -/
def step (folder : Place) (name : String) : Place :=
  if name == "" || name == "." then folder
  else if name == ".." then folder.dropLast
  else folder ++ [name]

/-- The place that names lead to, if all on the way are folders. -/
def walk (s : FileStore) : Place → List String → Option Place
  | place, [] => some place
  | place, name :: rest => if s.isFolder place then s.walk (step place name) rest else none

/-- The folder that names lead to from a folder, and the store in which it and those on the way are
made. -/
def enter (s : FileStore) : Place → List String → Option (FileStore × Place)
  | folder, [] => some (s, folder)
  | folder, name :: rest =>
    let place := step folder name
    if s.isFolder place then s.enter place rest
    else if s.files.contains place then none
    else enter { s with folders := s.folders ++ [place] } place rest

/-- The text of a file. -/
def read (s : FileStore) (path : String) : Except Fault String :=
  if isPath path then
    match (s.walk (s.start path) (namesOf path)).bind s.files.get? with
    | some text => .ok text
    | none => .error (.file "no such file")
  else .error (.file "not a path")

/-- Writes a file over any before it, and makes the folders on the way. -/
def save (s : FileStore) (path text : String) : Except Fault FileStore :=
  let names := namesOf path
  if isPath path then
    match names.getLast?, s.enter (s.start path) names.dropLast with
    | some name, some (s, folder) =>
      let place := folder ++ [name]
      if isMove name || s.isFolder place then .error (.file "is a folder")
      else .ok { s with files := s.files.insert place text }
    | _, _ => .error (.file "not a folder")
  else .error (.file "not a path")

instance : Files (StateM FileStore) where
  read path := fun s => (s.read path, s)
  save path text := fun s =>
    match s.save path text with
    | .ok s => (.ok (), s)
    | .error fault => (.error fault, s)

end FileStore

end ApiContract
