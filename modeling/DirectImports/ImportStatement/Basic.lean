/-!
# Import statements

An import statement binds names of another module. `import d, { a as b } from 'm'` has the
default specifier `d` and a named specifier that binds the export `a` as `b`.
-/

namespace DirectImports

/-- One specifier of an import statement. -/
inductive ImportSpecifier
  /-- `{ imported as binding }`, perhaps marked `type` -/
  | named (imported binding : String) (isType : Bool)
  /-- `binding` before the braces -/
  | whole (binding : String)
  /-- `* as binding` -/
  | star (binding : String)
deriving DecidableEq, Repr

namespace ImportSpecifier

/-- The name that the specifier binds. -/
def binding : ImportSpecifier → String
  | .named _ binding _ => binding
  | .whole binding => binding
  | .star binding => binding

/-- The name of a specifier's kind. -/
def kind : ImportSpecifier → String
  | .named .. => "named"
  | .whole _ => "default"
  | .star _ => "namespace"

/-- The specifier names one export. -/
def isNamed : ImportSpecifier → Bool
  | .named .. => true
  | _ => false

end ImportSpecifier

/-- An import statement with bindings. -/
structure ImportStatement where
  /-- the module specifier, as written -/
  source : String
  specifiers : List ImportSpecifier
  /-- `import type` -/
  typeOnly : Bool
deriving DecidableEq, Repr

end DirectImports
