import DirectImports.Barrel.ExportMap
import DirectImports.Barrel.Lookup
import DirectImports.Diagnostic
import DirectImports.Path.Specifier
import DirectImports.Surface

/-!
# Flattening a barrel

A barrel is a directory whose index file re-exports other modules. Flattening walks the chains of
`export *` that begin at the index file and collects, for every name, the module that defines it,
written as a segment seen from the barrel's directory.

The walk goes depth first through the statements in the order of the text. It keeps the files of
the current chain, and stops where a chain comes back to one of them. What it needs to know of
the file system is which file a path leads to and what that file exports (`Modules`).
-/

namespace DirectImports

/-! ## Modules -/

/-- A file system as a walk sees it. -/
structure Modules where
  /-- the file that a path leads to -/
  locate : Path → Except BarrelError Path
  /-- what a file exports -/
  surface : Path → Except BarrelError Surface

/-- The modules of a file system. -/
def FileSystem.modules (fs : FileSystem) : Modules where
  locate := fs.locate
  surface := fun file =>
    match fs.read file with
    | .ok source =>
      (Surface.parse file source).mapError fun faults => .malformed file (Source.inWords faults)
    | .error cause => .error (.unreadable file cause)

/-! ## Texts of findings -/

/-- The text for a chain that comes back to a file. -/
def cycleText (file : Path) : String :=
  "'" ++ file.text ++ "' re-enters its own wildcard chain; skipped"

/-- The text for an `export *` from a package. -/
def packageText (source : String) : String :=
  "export * from package '" ++ source ++ "' cannot be enumerated; skipped"

/-- The text for an `export * as`. -/
def namespaceText (source exported : String) : String :=
  "export * as " ++ exported ++ " from '" ++ source ++ "' is not resolved; skipped"

/-- The text for an export of an imported name. -/
def importedText (exported : String) : String :=
  "'" ++ exported ++ "' re-exports an imported binding; skipped"

/-! ## What a walk collects -/

/-- The exports and findings so far. -/
structure Walk where
  exports : ExportMap
  diagnostics : List Diagnostic
deriving DecidableEq, Repr

namespace Walk

/-- Nothing yet. -/
def empty : Walk := ⟨[], []⟩

/-- Adds a finding. -/
def report (walk : Walk) (kind : DiagnosticKind) (file : Path) (message : String) : Walk :=
  { walk with diagnostics := walk.diagnostics ++ [⟨kind, file, message⟩] }

/-- The name that `export *` does not forward. -/
def defaultName : String := "default"

/-- Adds a finding if a name has another record already. -/
def reportShadowing (walk : Walk) (file : Path) (name : String) (record : ExportRecord) : Walk :=
  match walk.exports.get? name with
  | some previous =>
    if previous = record then walk
    else walk.report .shadowedExport file
      ("'" ++ name ++ "' from '" ++ record.segment ++ "' replaces the earlier export from '"
        ++ previous.segment ++ "'")
  | none => walk

/-- Records an export; the last record of a name counts. -/
def record (walk : Walk) (file : Path) (viaWildcard : Bool) (name : String)
    (entry : ExportRecord) : Walk :=
  if viaWildcard && name == defaultName then walk
  else
    let reported := walk.reportShadowing file name entry
    { reported with exports := reported.exports.insert name entry }

end Walk

/-! ## One statement -/

/-- Where a walk stands. -/
structure Place where
  /-- the file -/
  file : Path
  /-- the directory that the file's specifiers start from -/
  baseDir : Path
  /-- the segment of the file -/
  segment : String
  /-- the segment of that directory -/
  baseSegment : String
  /-- the names that the file imports -/
  imported : List String
  /-- the file was reached by `export *` -/
  viaWildcard : Bool

namespace Place

/-- The place of a file that a path led to. The specifiers of the file start from its directory,
which is the path itself only if that was a directory. -/
def enter (path : Path) (segment : String) (viaWildcard : Bool) (file : Path)
    (surface : Surface) : Place :=
  let baseDir := file.parent?.getD ⟨""⟩
  { file := file
    baseDir := baseDir
    segment := segment
    baseSegment := if baseDir.Same path then segment else Specifier.join segment ".."
    imported := surface.imported
    viaWildcard := viaWildcard }

/-- Records an export of the file itself. -/
def recordOwn (place : Place) (walk : Walk) (name : String) : Walk :=
  walk.record place.file place.viaWildcard name ⟨place.segment, none⟩

/-- Records one entry of `export { … }`. -/
def recordLocal (place : Place) (walk : Walk) (specifier : Source.ExportSpecifier) : Walk :=
  if place.imported.contains specifier.name then
    walk.report .importedBindingReExport place.file (importedText specifier.exported)
  else place.recordOwn walk specifier.exported

/-- The segment of a module that the file names; that of a package is the specifier itself. -/
def segmentOf (place : Place) (source : String) : String :=
  if Specifier.isPath source then Specifier.join place.baseSegment source else source

/-- Records one entry of `export { … } from`. -/
def recordFrom (place : Place) (source : String) (walk : Walk)
    (specifier : Source.ExportSpecifier) : Walk :=
  let sourceName := if specifier.isAliased then some specifier.name else none
  walk.record place.file place.viaWildcard specifier.exported ⟨place.segmentOf source, sourceName⟩

/-- The effect of one statement; `descend` walks the module of an `export *`. -/
def step (place : Place) (descend : Path → String → Walk → Except BarrelError Walk)
    (walk : Walk) : Declaration → Except BarrelError Walk
  | .wildcard source =>
    if Specifier.isPath source then
      descend (place.baseDir.joinDir source) (Specifier.join place.baseSegment source) walk
    else
      .ok (walk.report .unsupportedReExport place.file (packageText source))
  | .star source exported =>
    .ok (walk.report .unsupportedReExport place.file (namespaceText source exported))
  | .named none specifiers => .ok (specifiers.foldl place.recordLocal walk)
  | .named (some source) specifiers => .ok (specifiers.foldl (place.recordFrom source) walk)
  | .declared names nameless =>
    let reported := nameless.foldl (fun walk reason =>
      walk.report .malformedDeclaration place.file reason.message) walk
    .ok (names.foldl place.recordOwn reported)
  | .default => .ok (place.recordOwn walk Walk.defaultName)
  | .other => .ok walk

end Place

/-! ## The walk -/

/-- A file is on a chain. -/
def onChain (chain : List Path) (file : Path) : Bool :=
  chain.any fun entry => decide (entry.Same file)

/-- Walks the module a path leads to, and returns its file. `chain` holds the files whose
`export *` led here, the last one first; `depth` bounds how many more may follow. -/
def Modules.visit (modules : Modules) : Nat → List Path → Path → String → Bool → Walk →
    Except BarrelError (Path × Walk)
  | 0, _, path, _, _, _ => .error (.tooDeep path)
  | depth + 1, chain, path, segment, viaWildcard, walk => do
    let file ← modules.locate path
    if onChain chain file then
      return (file, walk.report .cyclicReExport file (cycleText file))
    else
      let surface ← modules.surface file
      let place := Place.enter path segment viaWildcard file surface
      let descend := fun target targetSegment walk => do
        let visited ← modules.visit depth (file :: chain) target targetSegment true walk
        return visited.2
      let walk ← surface.declarations.foldlM (place.step descend) walk
      return (file, walk)

/-! ## Barrels -/

/-- A flattened barrel. -/
structure Barrel where
  /-- the barrel's directory, absolute and in normal form -/
  directory : Path
  /-- its index file -/
  rootFile : Path
  exports : ExportMap
  diagnostics : List Diagnostic
deriving DecidableEq, Repr

namespace Barrel

/-- The record of an exported name. -/
def get? (barrel : Barrel) (name : String) : Option ExportRecord :=
  barrel.exports.get? name

/-- The name of the index file without its extension. -/
def rootStem? (barrel : Barrel) : Option String :=
  barrel.rootFile.fileStem?

end Barrel

/-- Flattens the barrel in a directory. -/
def FileSystem.flatten (fs : FileSystem) (path : Path) : Except BarrelError Barrel := do
  let directory ← fs.absolute path
  let (rootFile, walk) ← fs.modules.visit (fs.depth + 1) [] directory "" false .empty
  return ⟨directory, rootFile, walk.exports, walk.diagnostics⟩

end DirectImports
