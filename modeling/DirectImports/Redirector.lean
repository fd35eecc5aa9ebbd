import DirectImports.Barrel.Cache
import DirectImports.ImportStatement.Basic

/-!
# Redirecting imports

An import of a barrel is replaced by one import for each of its names, which leads to the module
that defines the name. `Redirector.redirect` decides about one statement. To import a barrel as a
whole, by its default or as a namespace, is an error; a name that the barrel does not export is
dropped with a finding.
-/

namespace DirectImports

/-- How the specifiers of new imports are written. -/
inductive SpecifierStyle
  /-- from the importing file -/
  | relative
  /-- from the root -/
  | absolute
deriving DecidableEq, Repr

/-- The written name of a style. -/
def SpecifierStyle.name : SpecifierStyle → String
  | .relative => "relative"
  | .absolute => "absolute"

/-- The style with a written name. -/
def SpecifierStyle.ofName? (name : String) : Option SpecifierStyle :=
  [SpecifierStyle.relative, .absolute].find? (·.name = name)

/-- A place written as a specifier in a file of `dir`. -/
def SpecifierStyle.write (style : SpecifierStyle) (dir place : Path) : String :=
  match style with
  | .relative => Specifier.relative dir place
  | .absolute => place.toSlash

/-- Why an import cannot be redirected. -/
inductive RedirectError
  /-- an import of all that a barrel exports -/
  | unsupportedShape (source : String) (importer : Path) (kinds : String)
  /-- the barrel cannot be flattened -/
  | barrel (cause : BarrelError)
deriving DecidableEq, Repr

namespace RedirectError

/-- The error in words. -/
def message : RedirectError → String
  | .unsupportedShape source importer kinds =>
    "unsupported import of barrel '" ++ source ++ "' in '" ++ importer.text ++ "': " ++ kinds
      ++ " imports cannot be mapped to a single file"
  | .barrel cause => cause.message

/-- The code under which the error is documented. -/
def code : RedirectError → String
  | .unsupportedShape .. => "unbarrel::rewrite::unsupported_import_shape"
  | .barrel cause => cause.code

/-- What to do about it. -/
def help : RedirectError → Option String
  | .unsupportedShape source _ _ =>
    some ("import the needed names explicitly: import \x7b A, B \x7d from '" ++ source ++ "'")
  | .barrel cause => cause.help

end RedirectError

/-- What to do with an import statement. -/
inductive Outcome
  /-- leave it as it is -/
  | untouched
  /-- put these in its place -/
  | replaced (statements : List ImportStatement)
deriving DecidableEq, Repr

/-- What to do with an import statement, and what was found. -/
structure Redirection where
  outcome : Outcome
  diagnostics : List Diagnostic
deriving DecidableEq, Repr

/-- Leave the statement alone. -/
def Redirection.untouched : Redirection := ⟨.untouched, []⟩

/-- What is redirected, and how. -/
structure Redirector where
  /-- the directories of the barrels -/
  barrels : List Path
  style : SpecifierStyle
deriving DecidableEq, Repr

namespace Redirector

/-! ## Barrels -/

/-- Adds a directory to a list unless it is there already. -/
def addBarrel (barrels : List Path) (barrel : Path) : List Path :=
  if barrels.any (fun known => decide (known.Same barrel)) then barrels else barrels ++ [barrel]

/-- A redirector for some directories, made absolute. One that cannot be made absolute stays as
it is and is never the target of an import. -/
def make (fs : FileSystem) (barrels : List Path) (style : SpecifierStyle) : Redirector :=
  ⟨barrels.foldl (fun known barrel =>
    addBarrel known ((fs.absolute barrel).toOption.getD barrel)) [], style⟩

/-- A place is one of the barrels. -/
def isBarrel (redirector : Redirector) (place : Path) : Bool :=
  redirector.barrels.any fun known => decide (known.Same place)

/-- The barrel that a specifier in a file leads to. -/
def target? (redirector : Redirector) (fs : FileSystem) (importer : Path) (source : String) :
    Option Path := do
  if !Specifier.isPath source then none
  else
    let file ← (fs.absolute importer).toOption
    let dir ← file.parent?
    let target := dir.joinDir source
    if redirector.isBarrel target then some target else none

/-! ## New imports -/

/-- The specifier of a record's module, written in a file of `importerDir`. An empty segment
stands for the index file, not for the directory. -/
def sourceFor (redirector : Redirector) (barrel : Barrel) (record : ExportRecord)
    (importerDir : Path) : String :=
  if record.segment ≠ "" ∧ Specifier.isPath record.segment = false then record.segment
  else
    let target :=
      if record.segment = "" then
        match barrel.rootStem? with
        | some stem => barrel.directory.join stem
        | none => barrel.directory
      else barrel.directory.joinDir record.segment
    redirector.style.write importerDir target

/-- The import that takes the place of one specifier, or the finding that there is none. -/
def replace (redirector : Redirector) (barrel : Barrel) (importer importerDir : Path)
    (statement : ImportStatement) (imported binding : String) (isType : Bool) :
    Except Diagnostic ImportStatement :=
  match barrel.get? imported with
  | some record =>
    .ok ⟨redirector.sourceFor barrel record importerDir,
      [.named (record.importName imported) binding isType], statement.typeOnly⟩
  | none =>
    .error ⟨.unresolvedName, importer, "'" ++ imported ++ "' is not exported by barrel '"
      ++ statement.source ++ "'; dropped from the import"⟩

/-- Adds what becomes of one specifier to what became of those before it. -/
def collect (redirector : Redirector) (barrel : Barrel) (importer importerDir : Path)
    (statement : ImportStatement) (done : List ImportStatement × List Diagnostic) :
    ImportSpecifier → List ImportStatement × List Diagnostic
  | .named imported binding isType =>
    match redirector.replace barrel importer importerDir statement imported binding isType with
    | .ok replacement => (done.1 ++ [replacement], done.2)
    | .error diagnostic => (done.1, done.2 ++ [diagnostic])
  | _ => done

/-- The imports in place of a statement, and the findings. -/
def redirection (redirector : Redirector) (barrel : Barrel) (importer importerDir : Path)
    (statement : ImportStatement) : Redirection :=
  let (replacements, diagnostics) :=
    statement.specifiers.foldl (redirector.collect barrel importer importerDir statement) ([], [])
  match replacements with
  | [] => ⟨.untouched, diagnostics⟩
  | _ => ⟨.replaced replacements, diagnostics⟩

/-- The kinds of the specifiers that name no single export. -/
def fullKinds (statement : ImportStatement) : List String :=
  (statement.specifiers.filter (!·.isNamed)).map (·.kind)

/-- What to do with an import statement of a file. -/
def redirect (redirector : Redirector) (fs : FileSystem) (importer : Path)
    (statement : ImportStatement) : ExceptT RedirectError (StateM BarrelCache) Redirection := do
  match redirector.target? fs importer statement.source with
  | none => return .untouched
  | some target =>
    match fullKinds statement with
    | [] =>
      let barrel ← (fs.flattenOnce target).adapt .barrel
      let file ← ((fs.absolute importer).mapError .barrel : Except RedirectError Path)
      return redirector.redirection barrel importer (file.parent?.getD ⟨""⟩) statement
    | kinds =>
      throw (.unsupportedShape statement.source importer (String.intercalate ", " kinds))

end Redirector

end DirectImports
