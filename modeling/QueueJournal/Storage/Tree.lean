import QueueJournal.Storage.Fault
import QueueJournal.Storage.Path
import QueueJournal.Text.Bytes

/-!
# Files and directories

A tree of directories, files and two devices, one of which is always full while the other swallows
what it is given. Paths are resolved name by name from the working directory, or from the root if
they begin with a slash: every name but the last must lead to a directory.
-/

namespace QueueJournal

/-- The names that lead from the root to a place in the tree. -/
abbrev Location := List String

/-- What stands at a location. -/
inductive Storage.Node where
  /-- A directory. -/
  | directory
  /-- A file with its content. -/
  | file (content : Bytes)
  /-- A device without space. -/
  | full
  /-- A device that takes everything and holds nothing. -/
  | void
deriving DecidableEq, Repr

/-- A tree of files with a working directory. -/
structure Storage where
  /-- Everything below the root, by location. -/
  entries : List (Location × Storage.Node)
  /-- The working directory. -/
  workingDirectory : Location

namespace Storage

/-- An empty working directory in a tree that has the two devices. -/
def fresh : Storage where
  entries := [
    (["dev"], .directory),
    (["dev", "full"], .full),
    (["dev", "null"], .void),
    (["work"], .directory),
    (["work", "here"], .directory)]
  workingDirectory := ["work", "here"]

/-- What stands at a location; the root is always there. -/
def node? (t : Storage) (location : Location) : Option Node :=
  if location.isEmpty then some .directory else t.entries.lookup location

/-- Puts a node at a location, instead of what was there. -/
def put (t : Storage) (location : Location) (node : Node) : Storage :=
  { t with entries := update t.entries }
where
  /-- Replaces the entry of the location, or adds one behind the others. -/
  update : List (Location × Node) → List (Location × Node)
    | [] => [(location, node)]
    | (l, n) :: entries =>
      if l = location then (location, node) :: entries else (l, n) :: update entries

/-! ### Paths -/

/-- The most bytes that a name may have. -/
def longestName : Nat := 255

/-- A path of so many bytes is too long. -/
def pathLimit : Nat := 4096

/-- Takes a path apart, unless the system could not be handed it. -/
def path (text : String) : Except Fault Path :=
  if '\x00' ∈ text.toList then .error .nulInPath
  else if pathLimit ≤ Text.byteCount text.toList then .error .nameTooLong
  else .ok (.ofString text)

/-- The path that leads from the root to where another one leads from the working directory. -/
def absolute (t : Storage) (text : String) : String :=
  if text.toList.head? = some '/' then text
  else "/" ++ "/".intercalate t.workingDirectory ++ "/" ++ text

/-- Where a path starts. -/
def start (t : Storage) (p : Path) : Location :=
  if p.absolute then [] else t.workingDirectory

/-- One name further along a path. -/
def step (t : Storage) (location : Location) (name : String) : Except Fault Location :=
  if t.node? location ≠ some .directory then .error .notDirectory
  else if name = "." then .ok location
  else if name = ".." then .ok location.dropLast
  else if longestName < Text.byteCount name.toList then .error .nameTooLong
  else if (t.node? (location ++ [name])).isNone then .error .notFound
  else .ok (location ++ [name])

/-- The location that a list of names leads to. -/
def walk (t : Storage) (location : Location) : List String → Except Fault Location
  | [] => .ok location
  | name :: names => do walk t (← t.step location name) names

/-! ### Opening, reading and writing -/

/-- What stands at the end of a path. A slash at its end asks for a directory. -/
def find (t : Storage) (text : String) : Except Fault Node := do
  let p ← path text
  let location ← t.walk (t.start p) p.names
  match t.node? location with
  | none => .error .notFound
  | some node => if p.endsInSlash ∧ node ≠ .directory then .error .notDirectory else .ok node

/-- The content of the file at the end of a path. -/
def content (t : Storage) (text : String) : Except Fault Bytes := do
  match ← t.find text with
  | .directory => .error .isDirectory
  | .file content => .ok content
  | .full | .void => .ok []

/-- The location of the file at the end of a path, which may still be missing. -/
def fileLocation (t : Storage) (text : String) : Except Fault Location := do
  let p ← path text
  match p.names.getLast? with
  | none => .error .isDirectory
  | some name =>
    let parent ← t.walk (t.start p) p.names.dropLast
    if t.node? parent ≠ some .directory then .error .notDirectory
    else if name = "." ∨ name = ".." ∨ p.endsInSlash then .error .isDirectory
    else if longestName < Text.byteCount name.toList then .error .nameTooLong
    else if t.node? (parent ++ [name]) = some .directory then .error .isDirectory
    else .ok (parent ++ [name])

/-- Opens a file to write to it: gives its location and the tree that has it. -/
def openFile (t : Storage) (text : String) : Except Fault (Location × Storage) := do
  let location ← t.fileLocation text
  match t.node? location with
  | some _ => .ok (location, t)
  | none => .ok (location, t.put location (.file []))

/-- Whether bytes can be written at a location. -/
def accepts (t : Storage) (location : Location) : Bool :=
  t.node? location != some .full

/-- Adds bytes to the file at a location; a device keeps none. -/
def addBytes (t : Storage) (location : Location) (bytes : Bytes) : Storage :=
  match t.node? location with
  | some (.file content) => t.put location (.file (content ++ bytes))
  | _ => t

/-- Writes bytes to the file at the end of a path, behind its content or instead of it. -/
def write (t : Storage) (text : String) (bytes : Bytes) (append : Bool) : Except Fault Storage := do
  let (location, t) ← t.openFile text
  if !bytes.isEmpty && !t.accepts location then .error .noSpace
  else
    match t.node? location with
    | some (.file content) =>
      .ok (t.put location (.file (if append then content ++ bytes else bytes)))
    | _ => .ok t

/-- Makes a directory at the end of a path, unless something is there. -/
def makeDirectory? (t : Storage) (text : String) : Option Storage :=
  match path text with
  | .error _ => none
  | .ok p =>
    match p.names.getLast?, t.walk (t.start p) p.names.dropLast with
    | some name, .ok parent =>
      if t.node? parent = some .directory ∧ name ≠ "." ∧ name ≠ ".." ∧
          Text.byteCount name.toList ≤ longestName ∧ t.node? (parent ++ [name]) = none then
        some (t.put (parent ++ [name]) .directory)
      else none
    | _, _ => none

/-- The files below the working directory, by their path from there. -/
def files (t : Storage) : List (String × Bytes) :=
  t.entries.filterMap fun (location, node) ↦
    match node with
    | .file content =>
      if t.workingDirectory.isPrefixOf location then
        some ("/".intercalate (location.drop t.workingDirectory.length), content)
      else none
    | _ => none

end Storage

end QueueJournal
