import DirectImports.Config.Value
import DirectImports.FileSystem.Disk
import DirectImports.Json.Reader
import DirectImports.Toml.Reader

/-!
# Finding configurations

The configuration of a directory is its file `Config.fileName`, or else a field of its file
`package.json`. Any file but one named `package.json` is read as TOML.
-/

namespace DirectImports.Config

/-- The name of a file that holds nothing but a configuration. -/
def fileName : String := "unbarrel.toml"

/-- The name of a file that may hold one among other things. -/
def packageFileName : String := "package.json"

/-- The field that holds it. -/
def packageField : String := "unbarrel"

/-- The value is null. -/
def isNull : Json.Value → Bool
  | .null => true
  | _ => false

/-- The package file holds a configuration. -/
def inPackage (disk : Disk) (path : Path) : Bool :=
  match disk.readText path with
  | .ok text => ((Json.parse? text).bind (·.field? packageField)).any (!isNull ·)
  | .error _ => false

/-- The file that holds the configuration of a directory. -/
def find? (disk : Disk) (dir : Path) : Option Path :=
  let own := dir.join fileName
  let package := dir.join packageFileName
  if disk.isFile own then some own
  else if inPackage disk package then some package
  else none

/-- The configuration in the text of a package file. -/
def ofPackage (text : String) : Except ConfigError Config :=
  match Json.parse? text with
  | none => .error (.invalidValue packageFileName (some "Invalid JSON: "))
  | some value =>
    match value.field? packageField with
    | none =>
      .error (.invalidValue packageField (some "Add an 'unbarrel' field to your package.json"))
    | some .null =>
      .error (.invalidValue packageField (some "The 'unbarrel' field cannot be null"))
    | some value => fromValue value

/-- The configuration in a text of TOML. -/
def ofToml (text : String) : Except ConfigError Config :=
  match Toml.parse? text with
  | none => .error (.invalidValue "toml" (some "Invalid TOML syntax: "))
  | some value => fromValue value

/-- The configuration in a file. -/
def loadFrom (disk : Disk) (path : Path) : Except ConfigError Config :=
  match disk.readText path with
  | .error error => .error (.io error.message)
  | .ok text => if path.fileName? = some packageFileName then ofPackage text else ofToml text

/-- The configuration of a directory. -/
def load (disk : Disk) (dir : Path) : Except ConfigError Config :=
  match find? disk dir with
  | some path => loadFrom disk path
  | none => .error .notFound

/-- The configuration of a directory, or the one that says nothing. -/
def loadOrDefault (disk : Disk) (dir : Path) : Except ConfigError Config :=
  match load disk dir with
  | .error .notFound => .ok default
  | result => result

end DirectImports.Config
