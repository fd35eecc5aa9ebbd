import DirectImports.Path.Basic

/-!
# Configuration errors
-/

namespace DirectImports

/-- Why a configuration cannot be used. -/
inductive ConfigError
  /-- there is no configuration -/
  | notFound
  /-- a value is not what it should be -/
  | invalidValue (field : String) (hint : Option String)
  /-- no barrel is named -/
  | noBarrels
  /-- the values do not fit together -/
  | schema (message : String) (hint : Option String)
  /-- a barrel's directory does not exist -/
  | barrelNotFound (path : Path)
  /-- a barrel is no directory -/
  | barrelNotDirectory (path : Path)
  | io (message : String)
deriving DecidableEq, Repr

namespace ConfigError

/-- The error in words. -/
def message : ConfigError → String
  | .notFound => "config not found"
  | .invalidValue field none => "invalid config value for '" ++ field ++ "'"
  | .invalidValue field (some hint) => "invalid config value for '" ++ field ++ "': " ++ hint
  | .noBarrels => "no barrel directories specified"
  | .schema message _ => "schema validation failed: " ++ message
  | .barrelNotFound path => "barrel directory not found: " ++ path.text
  | .barrelNotDirectory path => "barrel path is not a directory: " ++ path.text
  | .io message => "I/O error: " ++ message

/-- What to do about it. -/
def hint : ConfigError → Option String
  | .notFound =>
    some "create an unbarrel.toml with `barrels = [\"src/components\"]` or pass --barrel"
  | .invalidValue _ hint => hint
  | .noBarrels => some "list at least one directory under `barrels`"
  | .schema _ hint => hint
  | .barrelNotFound _ => some "barrel paths are relative to the project root"
  | .barrelNotDirectory _ => some "barrel paths are relative to the project root"
  | .io _ => none

end ConfigError

end DirectImports
