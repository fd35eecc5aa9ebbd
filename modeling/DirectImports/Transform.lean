import DirectImports.ImportStatement.Printer
import DirectImports.Redirector
import DirectImports.Source.Reader

/-!
# Transforming files

The imports of a file are redirected one by one, and the new text of each is put in the place of
the old one. Everything else in the file stays as it is.
-/

namespace DirectImports

/-! ## Edits -/

/-- A stretch of a text and what takes its place. -/
structure Edit where
  /-- offset of the first character -/
  start : Nat
  /-- offset after the last character -/
  stop : Nat
  text : String
deriving DecidableEq, Repr

/-- Applies edits in increasing order to the text from an offset on. -/
def spliceFrom (cursor : Nat) (rest : List Char) : List Edit → List Char
  | [] => rest
  | edit :: edits =>
    rest.take (edit.start - cursor) ++ edit.text.toList
      ++ spliceFrom edit.stop (rest.drop (edit.stop - cursor)) edits

/-- Applies edits in increasing order, none of which overlap. -/
def splice (source : String) (edits : List Edit) : String :=
  String.ofList (spliceFrom 0 source.toList edits)

/-! ## Files -/

/-- A transformed file. -/
structure Transformed where
  code : String
  /-- the text is another one than before -/
  modified : Bool
  /-- the number of imports that were replaced -/
  replaced : Nat
  diagnostics : List Diagnostic
deriving DecidableEq, Repr

/-- Why a file cannot be transformed. -/
inductive TransformError
  | unreadable (path : Path) (cause : FileError)
  /-- the file is no module, and what the reader said of it -/
  | malformed (path : Path) (message : String)
  | redirect (cause : RedirectError)
deriving DecidableEq, Repr

namespace TransformError

/-- The error in words. -/
def message : TransformError → String
  | .unreadable path cause => "failed to read '" ++ path.text ++ "': " ++ cause.message
  | .malformed path message => "failed to parse '" ++ path.text ++ "': " ++ message
  | .redirect cause => cause.message

/-- The code under which the error is documented. -/
def code : TransformError → String
  | .unreadable .. => "unbarrel::transform::read"
  | .malformed .. => "unbarrel::transform::parse"
  | .redirect cause => cause.code

/-- What to do about it. -/
def help : TransformError → Option String
  | .redirect cause => cause.help
  | _ => none

end TransformError

namespace Redirector

/-- The edit that puts new imports in the place of an import declaration. -/
def editOf (declaration : Source.ImportDeclaration) (statements : List ImportStatement) : Edit :=
  ⟨declaration.start, declaration.stop,
    String.intercalate "\n" (statements.map (·.render declaration.quote))⟩

/-- Redirects one top-level statement, after those before it. -/
def editItem (redirector : Redirector) (fs : FileSystem) (path : Path)
    (done : List Edit × List Diagnostic) (item : Source.Item) :
    ExceptT RedirectError (StateM BarrelCache) (List Edit × List Diagnostic) := do
  match item with
  | .importDeclaration declaration =>
    match declaration.statement? with
    | none => return done
    | some statement =>
      let redirection ← redirector.redirect fs path statement
      let diagnostics := done.2 ++ redirection.diagnostics
      match redirection.outcome with
      | .untouched => return (done.1, diagnostics)
      | .replaced statements => return (done.1 ++ [editOf declaration statements], diagnostics)
  | _ => return done

/-- Redirects the imports of a text that a file holds. -/
def transform (redirector : Redirector) (fs : FileSystem) (path : Path) (source : String) :
    ExceptT TransformError (StateM BarrelCache) Transformed := do
  match Source.readItems (Source.Dialect.ofPath path) source with
  | .error faults => throw (.malformed path (Source.inWords faults))
  | .ok items =>
    let (edits, diagnostics) ←
      (items.foldlM (redirector.editItem fs path) ([], [])).adapt .redirect
    let code := splice source edits
    return ⟨code, code != source, edits.length, diagnostics⟩

/-- Redirects the imports of a file. -/
def transformFile (redirector : Redirector) (fs : FileSystem) (path : Path) :
    ExceptT TransformError (StateM BarrelCache) Transformed := do
  match fs.read path with
  | .ok source => redirector.transform fs path source
  | .error cause => throw (.unreadable path cause)

end Redirector

end DirectImports
