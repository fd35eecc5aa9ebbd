import DirectImports.Config.Basic
import DirectImports.Config.Error
import DirectImports.FileSystem.Disk

/-!
# Validating configurations

A configuration must name barrels and known extensions (`Config.validate`); on a disk, the
barrels must also be directories that exist (`Config.validateOn`). The first fault counts.
-/

namespace DirectImports.Config

/-- The known extensions, as messages list them. -/
def knownExtensions : String := String.intercalate ", " moduleExtensions

/-- An absolute barrel must lie under a root that is absolute too. -/
def isInsideRoot (config : Config) (barrel : Path) : Bool :=
  config.root.any fun root => root.isAbsolute && barrel.startsWith root

/-- Checks one barrel by its text. -/
def validateBarrel (config : Config) (barrel : Path) : Except ConfigError Unit :=
  if barrel.text = "" then
    .error (.schema "barrel paths cannot be empty"
      (some "Remove empty strings from the 'barrels' array"))
  else if barrel.isAbsolute && !config.isInsideRoot barrel then
    .error (.schema ("barrel '" ++ barrel.text ++ "' is outside the project root")
      (some "Use a path relative to the project root"))
  else .ok ()

/-- Checks one extension. -/
def validateExtension (extension : String) : Except ConfigError Unit :=
  if moduleExtensions.contains extension then .ok ()
  else .error (.schema ("unknown source extension '" ++ extension ++ "'")
    (some ("Use extensions without a leading dot, one of: " ++ knownExtensions)))

/-- Checks what can be checked without a disk. -/
def validate (config : Config) : Except ConfigError Unit := do
  if config.barrels.isEmpty then throw .noBarrels
  config.barrels.forM config.validateBarrel
  if config.includeExtensions.isEmpty then
    throw (.schema "include_extensions cannot be empty"
      (some ("Known extensions: " ++ knownExtensions)))
  config.includeExtensions.forM validateExtension

/-- Checks that a barrel is a directory. -/
def validateDirectory (disk : Disk) (path : Path) : Except ConfigError Unit :=
  if !disk.present path then .error (.barrelNotFound path)
  else if !disk.isDir path then .error (.barrelNotDirectory path)
  else .ok ()

/-- Checks a configuration in the directory `base` of a disk. -/
def validateOn (config : Config) (disk : Disk) (base : Path) : Except ConfigError Unit := do
  config.validate
  (config.barrelDirs base).forM (validateDirectory disk)

end DirectImports.Config
