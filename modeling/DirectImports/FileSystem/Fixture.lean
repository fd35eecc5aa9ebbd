import DirectImports.FileSystem.Store

/-!
# File systems in memory

A small file system for experiments, in which files and directories can be told to fail. A path
is found by its text alone: a relative path is put under the working directory, and `..` removes
the name before it, whether that exists or not.
-/

namespace DirectImports

/-- What stands at a location. -/
inductive Content
  | file (text : String)
  | directory
  /-- a file that cannot be read -/
  | readFails (error : FileError)
  /-- something whose metadata cannot be had -/
  | metadataFails (message : String)
  /-- a directory that cannot be listed -/
  | listFails (message : String)
  /-- neither a file nor a directory -/
  | special
deriving DecidableEq, Repr

/-- Something may stand below it. -/
def Content.isContainer : Content → Bool
  | .directory => true
  | .metadataFails _ => true
  | .listFails _ => true
  | _ => false

/-- A file system in memory. -/
structure Fixture where
  /-- the working directory, if there is one -/
  cwd : Option Path
  entries : Table Content
deriving Repr

namespace Fixture

/-- Only the root. -/
def empty (cwd : Option Path) : Fixture := ⟨cwd, [([], .directory)]⟩

/-- Puts something at a path. -/
def add (fixture : Fixture) (path : Path) (content : Content) : Fixture :=
  { fixture with
    entries := fixture.entries.insertDeep .directory (Location.ofText path.text) content }

/-- The location of a path. -/
def locationOf (fixture : Fixture) (path : Path) : Location :=
  Location.ofText ((fixture.cwd.getD ⟨"/"⟩).join path.text).text

/-- An action that failed on a path. -/
def failed (action : String) (path : Path) (reason : String) : FileError :=
  .io ("Failed to " ++ action ++ " " ++ path.text ++ ": " ++ reason)

/-- Something that is no directory was used as one. -/
def notDirectory : String := "Not a directory (os error 20)"

/-- What stands at a path, or why nothing does. -/
def find (fixture : Fixture) (action : String) (path : Path) : Except FileError Content :=
  let location := fixture.locationOf path
  match fixture.entries.get? location with
  | some content => .ok content
  | none =>
    if location.ancestors.any fun above =>
        (fixture.entries.get? above).any fun content => !content.isContainer then
      .error (failed action path notDirectory)
    else .error (.notFound path)

/-- The text of a file. -/
def read (fixture : Fixture) (path : Path) : Except FileError String := do
  match ← fixture.find "read" path with
  | .file text => return text
  | .directory => throw (failed "read" path "Is a directory (os error 21)")
  | .listFails _ => throw (failed "read" path "Is a directory (os error 21)")
  | .readFails error => throw error
  | .metadataFails message => throw (.io message)
  | .special => throw (.io "special file")

/-- What kind of thing a path leads to. -/
def metadata (fixture : Fixture) (path : Path) : Except FileError Metadata := do
  match ← fixture.find "get metadata for" path with
  | .file _ => return ⟨false, true⟩
  | .readFails _ => return ⟨false, true⟩
  | .directory => return ⟨true, false⟩
  | .listFails _ => return ⟨true, false⟩
  | .metadataFails message => throw (.io message)
  | .special => return ⟨false, false⟩

/-- The names in a directory. -/
def list (fixture : Fixture) (path : Path) : Except FileError (List String) := do
  match ← fixture.find "read directory" path with
  | .directory => return fixture.entries.children (fixture.locationOf path)
  | .listFails message => throw (.io message)
  | _ => throw (failed "read directory" path notDirectory)

/-- The fixture as its readers see it. On a chain a file has its absolute path or, where paths are
relative, one for each number of names that `..` takes off the working directory. -/
def view (fixture : Fixture) : FileSystem where
  read := fixture.read
  metadata := fixture.metadata
  list := fixture.list
  cwd := match fixture.cwd with
    | some path => .ok path
    | none => .error (.other "no working directory")
  depth := fixture.entries.length * ((fixture.cwd.getD ⟨"/"⟩).components.length + 2)

instance : Store Fixture where
  view := view
  write := fun fixture path text =>
    .ok { fixture with
      entries := fixture.entries.insertDeep .directory (fixture.locationOf path) (.file text) }
  remove := fun fixture path =>
    { fixture with entries := fixture.entries.erase (fixture.locationOf path) }

end Fixture

end DirectImports
