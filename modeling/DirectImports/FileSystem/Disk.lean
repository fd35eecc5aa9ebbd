import DirectImports.FileSystem.Store

/-!
# Disks

A disk has files, directories and symbolic links. A path is followed name by name, so that `..`
leads to the directory above the one that was really reached, and every name before the last must
be a directory or a link to one.

No more than forty links are followed for one path. A name has at most 255 bytes and a path fewer
than 4096.
-/

namespace DirectImports

/-- Why a disk refuses. -/
inductive DiskError
  | notFound
  | notDirectory
  | isDirectory
  | tooManyLinks
  | nameTooLong
  /-- the path holds the character NUL -/
  | invalidName
  /-- the file holds no text -/
  | invalidText
deriving DecidableEq, Repr

/-- The error in words. -/
def DiskError.message : DiskError → String
  | .notFound => "No such file or directory (os error 2)"
  | .notDirectory => "Not a directory (os error 20)"
  | .isDirectory => "Is a directory (os error 21)"
  | .tooManyLinks => "Too many levels of symbolic links (os error 40)"
  | .nameTooLong => "File name too long (os error 36)"
  | .invalidName => "file name contained an unexpected NUL byte"
  | .invalidText => "stream did not contain valid UTF-8"

/-- What stands at a location. -/
inductive Node
  /-- a file and its text, unless its bytes are none -/
  | file (text : Option String)
  | directory
  | link (target : String)
deriving DecidableEq, Repr

/-- What kind of thing a node is; a link by itself is none. -/
def Node.metadata : Node → Metadata
  | .directory => ⟨true, false⟩
  | .file _ => ⟨false, true⟩
  | .link _ => ⟨false, false⟩

/-- A disk, and where the program stands. -/
structure Disk where
  nodes : Table Node
  cwd : Location
deriving Repr

/-- What a path leads to. -/
inductive Found
  | node (location : Location) (node : Node)
  /-- nothing, but a file could be created there -/
  | absent (location : Location)
deriving DecidableEq, Repr

namespace Disk

/-- The longest name, in bytes. -/
def maxNameBytes : Nat := 255

/-- A path must have fewer bytes. -/
def maxPathBytes : Nat := 4096

/-- How many links are followed for one path. -/
def maxLinks : Nat := 40

/-- What stands at a location; the root is always there. -/
def node? (disk : Disk) (location : Location) : Option Node :=
  if location = [] then some .directory else disk.nodes.get? location

/-! ## Following paths -/

/-- The names of a path that are still to be followed. A slash at the end asks for a directory,
just as a last `.` does. -/
def steps (text : String) : List String :=
  let names := ((Path.pieces text.toList).filter (· != [])).map String.ofList
  if text.toList.getLast? = some '/' then names ++ ["."] else names

/-- What following names comes to: an end, or a link and the names behind it. -/
inductive Progress
  | found (found : Found)
  | link (dir : Location) (target : String) (rest : List String)

/-- Follows names from a directory, up to the first link that has to be followed. -/
def advance (disk : Disk) (followLast : Bool) :
    Location → List String → Except DiskError Progress
  | dir, [] => .ok (.found (.node dir .directory))
  | dir, name :: rest =>
    if name = "." then disk.advance followLast dir rest
    else if name = ".." then disk.advance followLast dir.dropLast rest
    else if maxNameBytes < name.utf8ByteSize then .error .nameTooLong
    else
      let location := dir ++ [name]
      match disk.node? location with
      | none => if rest = [] then .ok (.found (.absent location)) else .error .notFound
      | some .directory => disk.advance followLast location rest
      | some (.file text) =>
        if rest = [] then .ok (.found (.node location (.file text))) else .error .notDirectory
      | some (.link target) =>
        if rest = [] ∧ followLast = false then .ok (.found (.node location (.link target)))
        else .ok (.link dir target rest)

/-- The directory that a path starts from. -/
def startOf (dir : Location) (text : String) : Location :=
  if text.toList.head? = some '/' then [] else dir

/-- Follows names from a directory through at most the given number of links. -/
def follow (disk : Disk) (followLast : Bool) :
    Nat → Location → List String → Except DiskError Found
  | links, dir, names => do
    match ← disk.advance followLast dir names with
    | .found found => return found
    | .link dir target rest =>
      match links with
      | 0 => throw .tooManyLinks
      | links + 1 => disk.follow followLast links (startOf dir target) (steps target ++ rest)

/-- What a path leads to. -/
def find (disk : Disk) (followLast : Bool) (path : Path) : Except DiskError Found :=
  if path.text.toList.contains (Char.ofNat 0) then .error .invalidName
  else if path.text = "" then .error .notFound
  else if maxPathBytes ≤ path.text.utf8ByteSize then .error .nameTooLong
  else disk.follow followLast maxLinks (startOf disk.cwd path.text) (steps path.text)

/-- Where a path leads, with links followed. -/
def locate (disk : Disk) (path : Path) : Except DiskError (Location × Node) := do
  match ← disk.find true path with
  | .node location node => return (location, node)
  | .absent _ => throw .notFound

/-! ## Reading -/

/-- The text of a file. -/
def readText (disk : Disk) (path : Path) : Except DiskError String := do
  match (← disk.locate path).2 with
  | .file (some text) => return text
  | .file none => throw .invalidText
  | .directory => throw .isDirectory
  | .link _ => throw .tooManyLinks

/-- The names in a directory. -/
def listNames (disk : Disk) (path : Path) : Except DiskError (List String) := do
  match ← disk.locate path with
  | (location, .directory) => return disk.nodes.children location
  | _ => throw .notDirectory

/-- What stands at a path, links not followed. -/
def linkKind (disk : Disk) (path : Path) : Except DiskError Node := do
  match ← disk.find false path with
  | .node _ node => return node
  | .absent _ => throw .notFound

/-- What stands at a path, links followed. -/
def kind (disk : Disk) (path : Path) : Except DiskError Node := do
  return (← disk.locate path).2

/-- What kind of thing a path leads to. A link that leads nowhere is there, but is neither a file
nor a directory. -/
def metadataOf (disk : Disk) (path : Path) : Except DiskError Metadata := do
  match ← disk.linkKind path with
  | .link _ =>
    match disk.kind path with
    | .ok node => return node.metadata
    | .error _ => return ⟨false, false⟩
  | node => return node.metadata

/-- A directory is there. -/
def isDir (disk : Disk) (path : Path) : Bool :=
  match disk.kind path with
  | .ok .directory => true
  | _ => false

/-- A file is there. -/
def isFile (disk : Disk) (path : Path) : Bool :=
  match disk.kind path with
  | .ok (.file _) => true
  | _ => false

/-- Something is there, links followed. -/
def present (disk : Disk) (path : Path) : Bool :=
  (disk.kind path).toBool

/-! ## Changing -/

/-- Puts a text into a file. -/
def writeText (disk : Disk) (path : Path) (text : String) : Except DiskError Disk := do
  match ← disk.find true path with
  | .node _ .directory => throw .isDirectory
  | .node location _ => return { disk with nodes := disk.nodes.insert location (.file (some text)) }
  | .absent location => return { disk with nodes := disk.nodes.insert location (.file (some text)) }

/-- Removes what stands at a path, links not followed. -/
def erase (disk : Disk) (path : Path) : Disk :=
  match disk.find false path with
  | .ok (.node location _) => { disk with nodes := disk.nodes.erase location }
  | _ => disk

/-- Puts something at a location, after creating the directories above it. -/
def add (disk : Disk) (location : Location) (node : Node) : Disk :=
  { disk with nodes := disk.nodes.insertDeep .directory location node }

/-! ## As its readers see it -/

/-- The error of an action on a path. -/
def describe (action : String) (path : Path) (result : Except DiskError α) : Except FileError α :=
  result.mapError fun error =>
    if error = .notFound then .notFound path
    else .io ("Failed to " ++ action ++ " " ++ path.text ++ ": " ++ error.message)

/-- The disk as its readers see it. Files on a chain have different texts, all of them shorter
than a path may be. -/
def view (disk : Disk) : FileSystem where
  read := fun path => describe "read" path (disk.readText path)
  metadata := fun path => describe "get metadata for" path (disk.metadataOf path)
  list := fun path => describe "read directory" path (disk.listNames path)
  cwd := .ok disk.cwd.toPath
  depth := Nat.pow 256 maxPathBytes

instance : Store Disk where
  view := view
  write := fun disk path text => describe "write" path (disk.writeText path text)
  remove := erase

end Disk

end DirectImports
