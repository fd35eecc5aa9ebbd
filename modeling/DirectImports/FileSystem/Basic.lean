import DirectImports.Path.Basic

/-!
# File systems

A file system is seen through four questions: what a file holds, what kind of thing a path leads
to, what a directory lists, and where the program stands. Each may fail.
-/

namespace DirectImports

/-- Why a question to a file system has no answer. -/
inductive FileError
  /-- nothing is there -/
  | notFound (path : Path)
  | io (message : String)
  | other (message : String)
deriving DecidableEq, Repr

namespace FileError

/-- The error in words. -/
def message : FileError → String
  | .notFound path => "File not found: " ++ path.text
  | .io message => "I/O error: " ++ message
  | .other message => "Runtime error: " ++ message

/-- Nothing is there. -/
def isNotFound : FileError → Bool
  | .notFound _ => true
  | _ => false

end FileError

/-- What kind of thing a path leads to. -/
structure Metadata where
  isDir : Bool
  isFile : Bool
deriving DecidableEq, Repr

/-- A file system as its readers see it. -/
structure FileSystem where
  /-- the text of a file -/
  read : Path → Except FileError String
  metadata : Path → Except FileError Metadata
  /-- the names in a directory, in any order -/
  list : Path → Except FileError (List String)
  /-- the working directory -/
  cwd : Except FileError Path
  /-- how many visits of a walk may be nested before it is cut off; this bound, by which walks are
  defined, belongs to the model and not to the program, which behaves as with every larger one -/
  depth : Nat

namespace FileSystem

/-- The same file system with another bound on the depth of walks. -/
def withDepth (fs : FileSystem) (depth : Nat) : FileSystem := { fs with depth := depth }

/-- Something is there. -/
def present (fs : FileSystem) (path : Path) : Bool :=
  (fs.metadata path).toBool

/-- A file is there. -/
def isFile (fs : FileSystem) (path : Path) : Bool :=
  match fs.metadata path with
  | .ok metadata => metadata.isFile
  | .error _ => false

end FileSystem

end DirectImports
