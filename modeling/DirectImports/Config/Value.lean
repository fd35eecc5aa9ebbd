import DirectImports.Config.Basic
import DirectImports.Config.Error
import DirectImports.Json.Writer
import DirectImports.Text.Shown

/-!
# Configurations as values

A configuration is written as an object with five fields, three of which have a second spelling.
Fields may be left out, and may also be given by position in an array. The fields of an object are
looked at in the order of their names, and the first fault counts.
-/

namespace DirectImports

/-! ## Faults -/

/-- Why a value is no configuration. -/
inductive ValueError
  | invalidType (found : Json.Value) (expected : String)
  | unknownField (name : String)
  | duplicateField (name : String)
  | unknownStyle (name : String)
  /-- an object in place of a name has not exactly one field -/
  | notSingleKey
  /-- an array has too many items -/
  | tooLong (length : Nat)

/-- A value named by its kind. -/
def Json.Value.describe : Json.Value → String
  | .null => "null"
  | .bool value => "boolean `" ++ (if value then "true" else "false") ++ "`"
  | .integer value => "integer `" ++ (Json.Value.integer value).compact ++ "`"
  | .float value => "floating point `" ++ Decimal.plainNumber.render value ++ "`"
  | .string text => "string " ++ Text.shown text
  | .array _ => "sequence"
  | .object _ => "map"

namespace ValueError

/-- The names that a configuration's fields may have. -/
def knownFields : List String :=
  ["barrelFiles", "barrels", "root", "specifierStyle", "specifier_style", "includeExtensions",
   "include_extensions", "exclude"]

/-- A name as messages quote it. -/
def quoted (name : String) : String := "`" ++ name ++ "`"

/-- The fault in words. -/
def message : ValueError → String
  | .invalidType found expected => "invalid type: " ++ found.describe ++ ", expected " ++ expected
  | .unknownField name =>
    "unknown field " ++ quoted name ++ ", expected one of "
      ++ String.intercalate ", " (knownFields.map quoted)
  | .duplicateField name => "duplicate field " ++ quoted name
  | .unknownStyle name =>
    "unknown variant " ++ quoted name ++ ", expected `relative` or `absolute`"
  | .notSingleKey => "invalid value: map, expected map with a single key"
  | .tooLong length =>
    "invalid length " ++ toString length ++ ", expected fewer elements in array"

end ValueError

/-! ## Fields -/

/-- A field of a configuration. -/
inductive ConfigField
  | barrels
  | root
  | style
  | includeExtensions
  | exclude
deriving DecidableEq, Repr

namespace ConfigField

/-- The fields in order. -/
def all : List ConfigField := [.barrels, .root, .style, .includeExtensions, .exclude]

/-- The name of a field. -/
def name : ConfigField → String
  | .barrels => "barrels"
  | .root => "root"
  | .style => "specifier_style"
  | .includeExtensions => "include_extensions"
  | .exclude => "exclude"

/-- The second spelling of a name. -/
def alias? : ConfigField → Option String
  | .barrels => some "barrelFiles"
  | .style => some "specifierStyle"
  | .includeExtensions => some "includeExtensions"
  | _ => none

/-- The field with a name, in either spelling. -/
def ofName? (name : String) : Option ConfigField :=
  all.find? fun field => decide (field.name = name) || decide (field.alias? = some name)

end ConfigField

namespace Config

/-! ## Reading -/

/-- A text. -/
def readText (expected : String) : Json.Value → Except ValueError String
  | .string text => .ok text
  | value => .error (.invalidType value expected)

/-- A list of texts. -/
def readTexts (expected : String) : Json.Value → Except ValueError (List String)
  | .array items => items.mapM (readText expected)
  | value => .error (.invalidType value "a sequence")

/-- The style with a name. -/
def readStyleName (name : String) : Except ValueError SpecifierStyle :=
  match SpecifierStyle.ofName? name with
  | some style => .ok style
  | none => .error (.unknownStyle name)

/-- A style: its name, or an object with its name as the only key and null as the value. -/
def readStyle : Json.Value → Except ValueError SpecifierStyle
  | .string name => readStyleName name
  | .object [(name, value)] => do
    let style ← readStyleName name
    match value with
    | .null => return style
    | value => throw (.invalidType value "unit")
  | .object _ => .error .notSingleKey
  | value => .error (.invalidType value "string or map")

/-- Reads one field into a configuration. -/
def readField (config : Config) (value : Json.Value) : ConfigField → Except ValueError Config
  | .barrels => do
    return { config with barrels := (← readTexts "path string" value).map Path.mk }
  | .root =>
    match value with
    | .null => .ok { config with root := none }
    | value => do return { config with root := some ⟨← readText "path string" value⟩ }
  | .style => do return { config with style := ← readStyle value }
  | .includeExtensions => do
    return { config with includeExtensions := ← readTexts "a string" value }
  | .exclude => do return { config with exclude := ← readTexts "a string" value }

/-- Reads one named field, unless the same field was read before. -/
def readNamed (done : List ConfigField × Config) (field : String × Json.Value) :
    Except ValueError (List ConfigField × Config) :=
  match ConfigField.ofName? field.1 with
  | none => .error (.unknownField field.1)
  | some key =>
    if done.1.contains key then .error (.duplicateField key.name)
    else do return (key :: done.1, ← readField done.2 field.2 key)

/-- A configuration from a value. -/
def ofValue : Json.Value → Except ValueError Config
  | .object fields => do
    let sorted := fields.mergeSort fun a b => decide (a.1 ≤ b.1)
    return (← sorted.foldlM readNamed ([], default)).2
  | .array items => do
    let config ← (items.zip ConfigField.all).foldlM (fun config item =>
      readField config item.1 item.2) default
    if ConfigField.all.length < items.length then throw (.tooLong items.length)
    return config
  | value => .error (.invalidType value "struct UnbarrelConfig")

/-- A configuration from a value, or what is wrong with the value. -/
def fromValue (value : Json.Value) : Except ConfigError Config :=
  (ofValue value).mapError fun error => .invalidValue "config" (some error.message)

/-! ## Writing -/

/-- A list of texts as a value. -/
def textsValue (texts : List String) : Json.Value := .array (texts.map .string)

/-- A configuration as a value. -/
def toValue (config : Config) : Json.Value :=
  .object
    [("barrels", textsValue (config.barrels.map (·.text))),
     ("root", match config.root with
      | some root => .string root.text
      | none => .null),
     ("specifier_style", .string config.style.name),
     ("include_extensions", textsValue config.includeExtensions),
     ("exclude", textsValue config.exclude)]

end Config

end DirectImports
