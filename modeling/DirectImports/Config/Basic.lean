import DirectImports.Barrel.Lookup
import DirectImports.Redirector

/-!
# Configurations

Which directories are barrels, and which files are to be transformed. Paths are relative to the
project's root, which is itself relative to the directory of the configuration file.
-/

namespace DirectImports

/-- A configuration. -/
structure Config where
  barrels : List Path
  /-- the project's root, if it is not the directory of the configuration -/
  root : Option Path
  style : SpecifierStyle
  /-- the extensions of the files to transform -/
  includeExtensions : List String
  /-- names of files and directories to leave out -/
  exclude : List String
deriving DecidableEq, Repr

namespace Config

/-- The configuration that says nothing. -/
def default : Config := ⟨[], none, .relative, moduleExtensions, []⟩

/-- Names that are always left out. -/
def defaultExcludes : List String := ["node_modules", ".git", "dist", "build"]

/-- The project's root for a configuration in the directory `base`. -/
def projectRoot (config : Config) (base : Path) : Path :=
  match config.root with
  | some root => base.join root.text
  | none => base

/-- The directories of the barrels. -/
def barrelDirs (config : Config) (base : Path) : List Path :=
  config.barrels.map fun barrel => (config.projectRoot base).join barrel.text

/-- The file has an extension of those to transform. -/
def includesFile (config : Config) (path : Path) : Bool :=
  path.extension?.any config.includeExtensions.contains

/-- The name is left out. -/
def isExcluded (config : Config) (name : String) : Bool :=
  defaultExcludes.contains name || config.exclude.contains name

end Config

end DirectImports
