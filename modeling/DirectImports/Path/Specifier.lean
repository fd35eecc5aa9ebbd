import DirectImports.Path.Clean

/-!
# Module specifiers

A specifier is the text after `from`. It points into the file system when it begins with `.` or
`/`, and names a package otherwise.

A *segment* is a specifier in normal form, seen from a barrel's directory: empty for the
directory itself, `..` or `../x` above it, `./x` below it, and `/x` for an absolute place.
`Specifier.join` is composition of segments; `Specifier.relative` is the way from one directory
to another place.
-/

namespace DirectImports

/-- Components joined by slashes, without the root. -/
def joinNames (components : List Component) : String :=
  String.intercalate "/" (components.map Component.text)

/-- The components of a path with one slash between each two. -/
def Path.toSlash (path : Path) : String :=
  match path.components with
  | .root :: rest => "/" ++ joinNames rest
  | components => joinNames components

namespace Specifier

/-- The specifier points into the file system and names no package. -/
def isPath (specifier : String) : Bool :=
  match specifier.toList with
  | c :: _ => c == '.' || c == '/'
  | [] => false

/-- A path in normal form written as a segment. -/
def ofClean (path : Path) : String :=
  let text := path.toSlash
  if path.isAbsolute then text
  else if text = "" ∨ text = "." then ""
  else if text = ".." ∨ ['.', '.', '/'].isPrefixOf text.toList then text
  else "./" ++ text

/-- The segment of a specifier written in a module whose own segment is `base`. -/
def join (base specifier : String) : String :=
  ofClean ((⟨base⟩ : Path).join specifier).clean

/-- How many components two paths share at their beginning. -/
def sharedLength : List Component → List Component → Nat
  | a :: as, b :: bs => if a = b then sharedLength as bs + 1 else 0
  | _, _ => 0

/-- The way from a directory to a place: up to where the two part, then down. -/
def relative (dir target : Path) : String :=
  let shared := sharedLength dir.components target.components
  let up := List.replicate (dir.components.length - shared) Component.parent
  let text := (Path.ofComponents (up ++ target.components.drop shared)).toSlash
  if text = "" then "."
  else if ['.', '.'].isPrefixOf text.toList then text
  else "./" ++ text

end Specifier

end DirectImports
