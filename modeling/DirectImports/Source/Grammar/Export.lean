import DirectImports.Source.Grammar.Import

/-!
# Export declarations

What may follow `export`: a clause, a star, a default, or a declaration. `export = e` and
`export as namespace A` export nothing by name.
-/

namespace DirectImports.Source.Grammar

open DirectImports.Source.Parser

/-! ## Clauses and stars -/

/-- The module after `from`, if `from` is there and a literal follows. -/
def exportSource : Parser (Option String) := do
  if ← eatWord "from" then
    match ← token with
    | .string value _ =>
      advance
      let _ ← attributes
      return some value
    | .number | .bigint => failure
    | .word "true" false | .word "false" false | .word "null" false => failure
    | _ => return none
  else return none

/-- Without a module, the left side of an entry must name a binding. -/
def namesBinding (entry : ClauseEntry) : Bool :=
  !entry.left.isString && !isReserved entry.left.name && !strictWords.contains entry.left.name

/-- `export { … }`, from the braces on. -/
def exportNames (typeOnly : Bool) : Parser Item := do
  let entries ← clause typeOnly
  let source ← exportSource
  if source.isNone then require (entries.all namesBinding)
  semicolon
  return .exportNames source (entries.map fun entry => ⟨entry.left.name, entry.right.name⟩)

/-- `export * from`, from the star on. -/
def exportAll : Parser Item := do
  expect .star
  let exported ← if ← eatWord "as" then pure (some (← clauseName).name) else pure none
  expectWord "from"
  let source ← stringLiteral
  let _ ← attributes
  semicolon
  return .exportAll source exported

/-! ## Defaults -/

/-- `abstract` before `class` on the same line, or `class`. -/
def atClass : Parser Bool := do
  if ← atWord "class" then return true
  else
    let next ← peek
    return (← typescript) && (← atWord "abstract") && next.token == .word "class" false
      && !next.lineBreak

/-- A class, perhaps with `abstract` before it. -/
def classWithModifier (g : Grammar) : Parser Declared := do
  let _ ← eatWord "abstract"
  g.classDeclared

/-- `interface` before a name on the same line. -/
def atInterface : Parser Bool := do
  let next ← peek
  return (← typescript) && (← atWord "interface") && !next.lineBreak
    && (next.token matches .word ..)

/-- What `export default` exports. -/
def defaultValue (g : Grammar) : Parser Unit := do
  let decorated ← g.decorators
  if ← atClass then
    let _ ← g.classWithModifier
  else
    ensure !decorated
    if ← atInterface then
      let _ ← g.interfaceDeclaration
    else if (← atWord "function") || (← atAsyncFunction) then
      let _ ← g.functionDeclared false
    else
      g.valueWithIn
      semicolon

/-! ## Any export -/

/-- `export` before a declaration; decorators stand before `export` or behind it. -/
def exportedDeclaration (g : Grammar) (decoratedBefore : Bool) : Parser Item := do
  let decorated ← g.decorators
  require !(decorated && decoratedBefore)
  if decorated then ensure (← atClass)
  let declared ← g.declaration
  return .exportDeclaration declared.names declared.nameless declared.bound

/-- `as namespace A` after `export`. -/
def atNamespaceExport : Parser Bool := do
  return (← typescript) && (← atWord "as") && (← peek).token == .word "namespace" false

/-- `type` before a clause or star. -/
def atTypeOnlyExport : Parser Bool := do
  let next := (← peek).token
  return (← typescript) && (← atWord "type")
    && (next == .symbol .openBrace || next == .symbol .star)

/-- An export declaration; decorators before `export` belong to a class. -/
def exportDeclaration (g : Grammar) (decorated : Bool) : Parser Item := do
  expectWord "export"
  if decorated then
    ensure ((← isAt .atSign) || (← atClass) || (← atWord "default"))
  if ← isAt .openBrace then exportNames false
  else if ← isAt .star then exportAll
  else if ← eatWord "default" then
    if decorated then ensure (← atClass)
    g.defaultValue
    return .exportDefault
  else if ← atTypeOnlyExport then
    advance
    if ← isAt .star then exportAll else exportNames true
  else if (← typescript) && (← isAt .assign) then
    advance
    g.fullValue
    semicolon
    return .other
  else if ← atNamespaceExport then
    advance
    advance
    let _ ← bindingName
    semicolon
    return .other
  else g.exportedDeclaration decorated

end DirectImports.Source.Grammar
