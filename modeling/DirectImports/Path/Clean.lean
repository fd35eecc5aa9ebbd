import DirectImports.Path.Basic

/-!
# Lexical normal form of paths

`Path.clean` resolves `.` and `..` by looking at the text alone: `..` removes the name before
it, disappears at the root, and stays at the front of a relative path. A path with no component
left is written `.`.
-/

namespace DirectImports

/-- One component of the normal form, on a stack whose top is the last component kept. -/
def Component.cleanStep (stack : List Component) : Component → List Component
  | .current => stack
  | .parent =>
    match stack with
    | .root :: _ => stack
    | .name _ :: rest => rest
    | _ => .parent :: stack
  | component => component :: stack

namespace Path

/-- The components of the normal form. -/
def cleanComponents (components : List Component) : List Component :=
  (components.foldl Component.cleanStep []).reverse

/-- The lexical normal form. -/
def clean (path : Path) : Path :=
  match cleanComponents path.components with
  | [] => ⟨"."⟩
  | components => ofComponents components

/-- The module a specifier names when it is written in the directory `dir`. -/
def joinDir (dir : Path) (specifier : String) : Path :=
  (dir.join specifier).clean

/-- An absolute path in normal form. -/
def IsNormal (path : Path) : Prop :=
  path.isAbsolute = true ∧ path.clean = path

instance (path : Path) : Decidable path.IsNormal :=
  inferInstanceAs (Decidable (_ ∧ _))

end Path

end DirectImports
