import DirectImports.Path.Basic

/-!
# Diagnostics

Findings that do not stop the work. They are returned beside the result, in the order in which
they were made.
-/

namespace DirectImports

/-- What a finding is about. -/
inductive DiagnosticKind
  /-- an exported declaration without a name -/
  | malformedDeclaration
  /-- a re-export whose names cannot be known -/
  | unsupportedReExport
  /-- an export of something that was imported by name -/
  | importedBindingReExport
  /-- a chain of re-exports that comes back to a file on it -/
  | cyclicReExport
  /-- a later export replaces an earlier one of the same name -/
  | shadowedExport
  /-- an imported name that is not exported -/
  | unresolvedName
deriving DecidableEq, Repr

/-- The written name of a kind. -/
def DiagnosticKind.name : DiagnosticKind → String
  | .malformedDeclaration => "malformed-declaration"
  | .unsupportedReExport => "unsupported-re-export"
  | .importedBindingReExport => "imported-binding-re-export"
  | .cyclicReExport => "cyclic-re-export"
  | .shadowedExport => "shadowed-export"
  | .unresolvedName => "unresolved-name"

/-- Every kind. -/
def DiagnosticKind.all : List DiagnosticKind :=
  [.malformedDeclaration, .unsupportedReExport, .importedBindingReExport, .cyclicReExport,
   .shadowedExport, .unresolvedName]

/-- The kind with a written name. -/
def DiagnosticKind.ofName? (name : String) : Option DiagnosticKind :=
  DiagnosticKind.all.find? (·.name = name)

/-- A finding. -/
structure Diagnostic where
  kind : DiagnosticKind
  /-- the file that the finding is about -/
  path : Path
  message : String
deriving DecidableEq, Repr

/-- A finding on one line. -/
def Diagnostic.render (diagnostic : Diagnostic) : String :=
  "[" ++ diagnostic.kind.name ++ "] " ++ diagnostic.path.text ++ ": " ++ diagnostic.message

end DirectImports
