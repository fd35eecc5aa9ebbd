import DirectImports.FileSystem.Basic

/-!
# Why a barrel cannot be flattened

Each error is fatal for the barrel: no partial map of exports is returned.
-/

namespace DirectImports

/-- Why a barrel cannot be flattened. -/
inductive BarrelError
  /-- neither the path nor a file with that name and an extension exists -/
  | missing (path : Path)
  /-- a directory without an index file -/
  | noIndex (dir : Path)
  /-- a file or directory that cannot be read -/
  | unreadable (path : Path) (cause : FileError)
  /-- a file that is no module, and what the reader said of it -/
  | malformed (path : Path) (message : String)
  /-- the walk was cut off by the bound on its depth (`FileSystem.depth`), which like this error
  belongs to the model and not to the program -/
  | tooDeep (path : Path)
deriving DecidableEq, Repr

namespace BarrelError

/-- The path where it went wrong. -/
def path : BarrelError → Path
  | .missing path => path
  | .noIndex dir => dir
  | .unreadable path _ => path
  | .malformed path _ => path
  | .tooDeep path => path

/-- The error in words. -/
def message : BarrelError → String
  | .missing path =>
    "cannot resolve '" ++ path.text ++ "': no such file, directory or extension match"
  | .noIndex dir => "directory '" ++ dir.text ++ "' has no index file"
  | .unreadable path cause => "failed to read '" ++ path.text ++ "': " ++ cause.message
  | .malformed path message => "failed to parse '" ++ path.text ++ "': " ++ message
  | .tooDeep path => "the chain of re-exports through '" ++ path.text ++ "' is too long"

/-- The code under which the error is documented. -/
def code : BarrelError → String
  | .missing _ => "unbarrel::resolve::not_found"
  | .noIndex _ => "unbarrel::resolve::no_index"
  | .unreadable .. => "unbarrel::resolve::read"
  | .malformed .. => "unbarrel::resolve::parse"
  | .tooDeep _ => "unbarrel::resolve::too_deep"

/-- What to do about it. -/
def help : BarrelError → Option String
  | .noIndex _ =>
    some "add an index.ts/index.js file that re-exports the directory's public surface"
  | _ => none

end BarrelError

end DirectImports
