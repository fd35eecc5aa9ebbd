import DirectImports.Config.Error
import DirectImports.Transform

/-!
# Why a command fails
-/

namespace DirectImports

/-- What kind of thing went wrong outside. -/
inductive IoKind
  | notFound
  | other
deriving DecidableEq, Repr

/-- Why a command fails. -/
inductive CommandError
  | config (cause : ConfigError)
  | barrel (cause : BarrelError)
  | transform (cause : TransformError)
  /-- some files could not be transformed -/
  | transformFailed (failed total : Nat)
  /-- some files would change -/
  | checkFailed (count : Nat)
  | fileNotFound (path : Path)
  | file (cause : FileError)
  | io (kind : IoKind) (message : String)
deriving DecidableEq, Repr

namespace CommandError

/-- The error in words. -/
def message : CommandError → String
  | .config cause => "Configuration error: " ++ cause.message
  | .barrel cause => cause.message
  | .transform cause => cause.message
  | .transformFailed failed total =>
    toString failed ++ " of " ++ toString total ++ " files could not be transformed"
  | .checkFailed count =>
    toString count ++ " file(s) import through barrels and would be rewritten"
  | .fileNotFound path => "File not found: " ++ path.text
  | .file cause => cause.message
  | .io _ message => "I/O error: " ++ message

/-- The code under which the error is documented. -/
def code : CommandError → Option String
  | .barrel cause => some cause.code
  | .transform cause => some cause.code
  | _ => none

/-- What to do about it. -/
def help : CommandError → Option String
  | .config cause => cause.hint
  | .barrel cause => cause.help
  | .transform cause => cause.help
  | .checkFailed _ => some "run `unbarrel rewrite --write` to apply the rewrite"
  | _ => none

/-- The same error, where a file that is missing is named as the user knows it. -/
def withPath (error : CommandError) (path : Path) : CommandError :=
  match error with
  | .io .notFound _ => .fileNotFound path
  | .file (.notFound _) => .fileNotFound path
  | error => error

end CommandError

end DirectImports
