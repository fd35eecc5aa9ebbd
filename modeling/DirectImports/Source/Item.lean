import DirectImports.ImportStatement.Basic

/-!
# Top-level statements

A module is read as the list of its top-level statements. Only imports and exports are kept in
detail; everything else is one `other` each.
-/

namespace DirectImports.Source

/-- An import declaration with its place in the text. -/
structure ImportDeclaration where
  /-- offset of `import` -/
  start : Nat
  /-- offset after the semicolon, or after the specifier if there is none -/
  stop : Nat
  /-- the module specifier -/
  source : String
  /-- the quote around the module specifier -/
  quote : Char
  /-- none for `import 'm'` -/
  specifiers : Option (List ImportSpecifier)
  /-- `import type` -/
  typeOnly : Bool
  /-- followed by `with` or `assert` -/
  hasAttributes : Bool
  /-- `import defer` or `import source` -/
  hasPhase : Bool
deriving DecidableEq, Repr

/-- The statement a declaration makes, unless it binds nothing, has attributes or a phase. -/
def ImportDeclaration.statement? (declaration : ImportDeclaration) : Option ImportStatement :=
  if declaration.hasAttributes || declaration.hasPhase then none
  else declaration.specifiers.map fun specifiers =>
    ⟨declaration.source, specifiers, declaration.typeOnly⟩

/-- One `a as b` of an export clause. -/
structure ExportSpecifier where
  /-- the name on the side of the source -/
  name : String
  /-- the name that consumers import -/
  exported : String
deriving DecidableEq, Repr

/-- Why a name of an exported declaration is missing. -/
inductive NamelessReason
  | destructuring
  | unnamedFunction
  | unnamedClass
  | unsupported
deriving DecidableEq, Repr

/-- A top-level statement. -/
inductive Item
  | importDeclaration (declaration : ImportDeclaration)
  /-- `export * from`, perhaps with `as` -/
  | exportAll (source : String) (exported : Option String)
  /-- `export { … }`, perhaps with `from` -/
  | exportNames (source : Option String) (specifiers : List ExportSpecifier)
  /-- `export` before a declaration: its names, why names are missing, and all that it binds -/
  | exportDeclaration (names : List String) (nameless : List NamelessReason) (bound : List String)
  | exportDefault
  /-- a string literal at the very beginning -/
  | directive
  | other
deriving DecidableEq, Repr

end DirectImports.Source
