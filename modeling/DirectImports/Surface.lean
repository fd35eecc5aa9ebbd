import DirectImports.Source.Reader
import DirectImports.Text.Sorting

/-!
# The surface of a module

What a module shows to those that import it: each top-level statement reduced to the exports it
makes, in the order of the text, together with the names that the module itself imports.
-/

namespace DirectImports

/-- What one top-level statement exports. -/
inductive Declaration
  /-- `export * from 'm'` -/
  | wildcard (source : String)
  /-- `export * as n from 'm'` -/
  | star (source exported : String)
  /-- `export { a, b as c }`, with `from 'm'` or without -/
  | named (source : Option String) (specifiers : List Source.ExportSpecifier)
  /-- `export` before a declaration, and why some of its names are missing -/
  | declared (names : List String) (nameless : List Source.NamelessReason)
  /-- `export default` -/
  | default
  /-- nothing -/
  | other
deriving DecidableEq, Repr

/-- The names on the two sides of `as` differ. -/
def Source.ExportSpecifier.isAliased (specifier : Source.ExportSpecifier) : Bool :=
  specifier.name != specifier.exported

/-- Why a name is missing, in words. -/
def Source.NamelessReason.message : Source.NamelessReason → String
  | .destructuring => "destructuring pattern in exported variable"
  | .unnamedFunction => "exported function without a name"
  | .unnamedClass => "exported class without a name"
  | .unsupported => "unsupported exported declaration"

/-- What a top-level statement exports. -/
def Declaration.ofItem : Source.Item → Declaration
  | .exportAll source none => .wildcard source
  | .exportAll source (some exported) => .star source exported
  | .exportNames source specifiers => .named source specifiers
  | .exportDeclaration names nameless _ => .declared names nameless
  | .exportDefault => .default
  | _ => .other

/-- The names that a top-level statement imports. -/
def Source.Item.importedNames : Source.Item → List String
  | .importDeclaration declaration => (declaration.specifiers.getD []).map (·.binding)
  | _ => []

/-- The surface of a module. -/
structure Surface where
  declarations : List Declaration
  /-- the names bound by imports, in increasing order -/
  imported : List String
deriving DecidableEq, Repr

namespace Surface

/-- The surface made by a list of statements. -/
def ofItems (items : List Source.Item) : Surface :=
  { declarations := items.map Declaration.ofItem
    imported := Text.sorted (items.flatMap (·.importedNames)) }

/-- The surface of a module with the given text, or what is wrong with the text. -/
def parse (path : Path) (source : String) : Except (List String) Surface :=
  (Source.readItems (Source.Dialect.ofPath path) source).map ofItems

/-- The surface of a module with the given text, unless the text is malformed. -/
def parse? (path : Path) (source : String) : Option Surface :=
  (parse path source).toOption

theorem parse?_eq_some_iff {path : Path} {source : String} {surface : Surface} :
    parse? path source = some surface ↔ parse path source = .ok surface := by
  unfold parse?
  cases parse path source <;> simp [Except.toOption]

end Surface

end DirectImports
