import DirectImports.ImportStatement.Basic
import DirectImports.Text.CharClass

/-!
# Printing import statements

An import statement is printed on one line with a semicolon. Names that are no identifiers are
printed as string literals, with the quote that is also used around the module specifier.
-/

namespace DirectImports

namespace Quoted

/-- A text with a backslash before each backslash and each quote. -/
def escape (quote : Char) : List Char → List Char
  | [] => []
  | c :: rest =>
    if c = '\\' ∨ c = quote then '\\' :: c :: escape quote rest else c :: escape quote rest

/-- A string literal. -/
def literal (quote : Char) (text : String) : String :=
  String.ofList (quote :: escape quote text.toList ++ [quote])

/-- A text that can be written as a name. -/
def isName (text : String) : Bool :=
  match text.toList with
  | [] => false
  | first :: rest =>
    (Text.isAlphabetic first || first == '_' || first == '$')
      && rest.all fun c => Text.isAlphanumeric c || c == '_' || c == '$'

/-- The name of an export: as it is, or as a string literal. -/
def exportName (quote : Char) (name : String) : String :=
  if isName name then name else literal quote name

end Quoted

/-- A specifier inside braces; the mark `type` is left out if the whole statement has it. -/
def ImportSpecifier.renderNamed? (quote : Char) (typeOnly : Bool) :
    ImportSpecifier → Option String
  | .named imported binding isType =>
    let mark := if isType && !typeOnly then "type " else ""
    let names :=
      if imported = binding then binding
      else Quoted.exportName quote imported ++ " as " ++ binding
    some (mark ++ names)
  | _ => none

/-- A specifier outside braces. -/
def ImportSpecifier.renderWhole? : ImportSpecifier → Option String
  | .whole binding => some binding
  | .star binding => some ("* as " ++ binding)
  | .named .. => none

namespace ImportStatement

/-- What stands between `import` and `from`. -/
def renderBindings (statement : ImportStatement) (quote : Char) : String :=
  let leading := statement.specifiers.filterMap ImportSpecifier.renderWhole?
  let named := statement.specifiers.filterMap
    (ImportSpecifier.renderNamed? quote statement.typeOnly)
  let braces := if named = [] then [] else ["\x7b " ++ String.intercalate ", " named ++ " \x7d"]
  match leading ++ braces with
  | [] => "\x7b\x7d"
  | clauses => String.intercalate ", " clauses

/-- The statement as text. -/
def render (statement : ImportStatement) (quote : Char) : String :=
  "import " ++ (if statement.typeOnly then "type " else "") ++ statement.renderBindings quote
    ++ " from " ++ Quoted.literal quote statement.source ++ ";"

end ImportStatement

end DirectImports
