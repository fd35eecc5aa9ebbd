import DirectImports.CommandLine.Error
import DirectImports.Config.Basic
import DirectImports.FileSystem.Walk

/-!
# Collecting the files to transform

From every path that is named a walk begins, which passes over the names that are left out and all
that is below them. The files that it comes to are taken if their extension is included. Links are
not followed, except for one that is named itself and leads to a directory. The result is sorted by
components and names no file twice.
-/

namespace DirectImports.CommandLine

/-- A path made absolute from the working directory, in normal form. -/
def resolvePath (cwd path : Path) : Path :=
  if path.isAbsolute then path.clean else (cwd.join path.text).clean

/-- The node is a file. -/
def isPlainFile : Node → Bool
  | .file _ => true
  | _ => false

/-- The walk came to a file whose extension is included. -/
def isTaken (config : Config) (visited : Visited) : Bool :=
  isPlainFile visited.node && config.includesFile visited.path

/-- The error of a walk that cannot begin. -/
def walkError (root : Path) (error : DiskError) : CommandError :=
  .io (if error = .notFound then .notFound else .other)
    ("IO error for operation on " ++ root.text ++ ": " ++ error.message)

/-- The files at or below a path in normal form. -/
def sourcesAt (disk : Disk) (config : Config) (root : Path) : Except CommandError (List Path) :=
  if disk.present root then
    match disk.walk (!config.isExcluded ·) root with
    | .ok visited => .ok ((visited.filter (isTaken config)).map (·.path))
    | .error error => .error (walkError root error)
  else .error (.fileNotFound root)

/-- The texts of a path's components. -/
def names (path : Path) : List String := path.components.map Component.text

/-- The first path comes before the second or at the same place. -/
def comesBefore (a b : Path) : Bool :=
  !(names b).lex (names a) (fun x y => decide (x < y))

/-- A list without those paths that follow one at the same place. -/
def dropRepeated : List Path → List Path
  | [] => []
  | [path] => [path]
  | first :: second :: rest =>
    if first.Same second then dropRepeated (first :: rest)
    else first :: dropRepeated (second :: rest)

/-- The files to transform. -/
def collectSources (disk : Disk) (config : Config) (cwd : Path) (paths : List Path) :
    Except CommandError (List Path) := do
  let found ← paths.mapM fun path => sourcesAt disk config (resolvePath cwd path)
  return dropRepeated (found.flatten.mergeSort comesBefore)

end DirectImports.CommandLine
