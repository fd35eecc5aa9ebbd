import DirectImports.Source.Grammar.Declaration

/-!
# Import and export clauses, import declarations

A clause `{ a, type b, c as d }` reads the same way after `import` and after `export`. The words
`type` and `as` are also names, and only what follows them decides which of the two they are
(`clauseEntry`). Likewise the word after `import` may be a modifier or the name of the default
binding (`importHead`).
-/

namespace DirectImports.Source.Grammar

open DirectImports.Source.Parser

/-! ## Names in clauses -/

/-- A name in a clause: a word, keywords included, or a string. -/
structure ClauseName where
  name : String
  isString : Bool

/-- The current token can be a name in a clause. -/
def atClauseName : Parser Bool := do
  match ← token with
  | .word .. => return true
  | .string .. => return true
  | _ => return false

/-- A name in a clause. -/
def clauseName : Parser ClauseName := do
  match ← token with
  | .word name _ =>
    advance
    return ⟨name, false⟩
  | .string value wellFormed =>
    require wellFormed
    advance
    return ⟨value, true⟩
  | _ => failure

/-- One entry of a clause: the name on the left, the name on the right, and the modifier. -/
structure ClauseEntry where
  left : ClauseName
  right : ClauseName
  isType : Bool

/-- The rest of an entry that begins with `type as`. -/
def typeAsEntry (type as : ClauseName) : Parser ClauseEntry := do
  if ← atWord "as" then
    let second ← clauseName
    if ← atClauseName then return ⟨as, ← clauseName, true⟩
    else return ⟨type, second, false⟩
  else if ← atClauseName then return ⟨type, ← clauseName, false⟩
  else return ⟨as, as, true⟩

/-- An entry whose left side is known, perhaps with `as` behind it. -/
def renamedEntry (left : ClauseName) (isType : Bool) : Parser ClauseEntry := do
  if ← eatWord "as" then return ⟨left, ← clauseName, isType⟩
  else return ⟨left, left, isType⟩

/-- One entry of a clause. The modifier belongs to the language with types, and may not repeat
the one before the whole clause. -/
def clauseEntry (typeOnly : Bool) : Parser ClauseEntry := do
  let first ← clauseName
  let entry ←
    if first.name == "type" && !first.isString then
      if ← atWord "as" then typeAsEntry first (← clauseName)
      else if ← atClauseName then renamedEntry (← clauseName) true
      else renamedEntry first false
    else renamedEntry first false
  if entry.isType then
    ensure (← typescript)
    require !typeOnly
  return entry

/-- A clause in braces. -/
def clause (typeOnly : Bool) : Parser (List ClauseEntry) := do
  expect .openBrace
  commaList .closeBrace (clauseEntry typeOnly)

/-! ## Module specifiers -/

/-- Attributes after a module specifier, if there are any. -/
def attributes : Parser Bool := do
  if (← atWord "with") || ((← atWord "assert") && !(← onNewLine)) then
    advance
    expect .openBrace
    let _ ← commaList .closeBrace do
      match ← token with
      | .word .. | .string .. => advance
      | _ => failure
      expect .colon
      let _ ← stringLiteral
    return true
  else return false

/-! ## Import declarations -/

/-- What stands between `import` and the braces or star. -/
structure ImportHead where
  /-- the default binding -/
  binding : Option String
  typeOnly : Bool
  hasPhase : Bool

/-- A binding name, if there is one. -/
def optionalBinding : Parser (Option String) := do
  if ← atBindingName then return some (← bindingName) else return none

/-- After `type`: it is a modifier. -/
def atTypedImport : Parser Bool := do
  if ← atWord "from" then
    let next ← peek
    return next.token == .word "from" false || next.token == .symbol .assign
  else return (← atBindingName) || (← isAt .openBrace) || (← isAt .star)

/-- After `defer` or `source`: it is a modifier. -/
def atPhasedImport : Parser Bool := do
  if ← atWord "from" then return !((← peek).token matches .string ..)
  else return !((← isAt .comma) || (← isAt .assign))

/-- The modifier and the default binding of an import. -/
def importHead : Parser ImportHead := do
  match ← optionalBinding with
  | none => return ⟨none, false, false⟩
  | some name =>
    if name == "type" && (← typescript) && (← atTypedImport) then
      return ⟨← optionalBinding, true, false⟩
    else if (name == "defer" || name == "source") && (← atPhasedImport) then
      let binding ← optionalBinding
      if name == "defer" then require (binding.isNone && (← isAt .star))
      else require (binding.isSome && (← atWord "from"))
      return ⟨binding, false, true⟩
    else return ⟨some name, false, false⟩

/-- The specifier of one entry of an import clause, whose right side must name a binding. -/
def importSpecifier (entry : ClauseEntry) : Parser ImportSpecifier := do
  require (!entry.right.isString && !isReserved entry.right.name)
  return .named entry.left.name entry.right.name entry.isType

/-- The star or braces of an import. -/
def importBindings (typeOnly : Bool) : Parser (List ImportSpecifier) := do
  if ← eat .star then
    expectWord "as"
    return [.star (← bindingName)]
  else (← clause typeOnly).mapM importSpecifier

/-- Everything that an import binds, up to `from`. -/
def importSpecifiers (head : ImportHead) : Parser (List ImportSpecifier) := do
  match head.binding with
  | none => importBindings head.typeOnly
  | some binding =>
    if ← eat .comma then return .whole binding :: (← importBindings head.typeOnly)
    else return [.whole binding]

/-- The module specifier of an import and what follows it. -/
def importSource (start : Nat) (head : ImportHead) (specifiers : Option (List ImportSpecifier)) :
    Parser Item := do
  let quote := (← lexeme).here.headD '\''
  let source ← stringLiteral
  let hasAttributes ← attributes
  semicolon
  return .importDeclaration
    { start := start, stop := (← get).lastStop, source := source, quote := quote,
      specifiers := specifiers, typeOnly := head.typeOnly, hasAttributes := hasAttributes,
      hasPhase := head.hasPhase }

/-- An import declaration. -/
def importDeclaration : Parser Item := do
  let start := (← lexeme).start
  expectWord "import"
  if (← token) matches .string .. then importSource start ⟨none, false, false⟩ none
  else
    let head ← importHead
    let continues := (← isAt .comma) || (← atWord "from") || head.hasPhase
    if head.binding.isSome && !continues then
      ensure (← typescript)
      importAlias
      return .other
    else
      let specifiers ← importSpecifiers head
      expectWord "from"
      importSource start head (some specifiers)

end DirectImports.Source.Grammar
