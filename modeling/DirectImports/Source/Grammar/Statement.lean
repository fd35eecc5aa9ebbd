import DirectImports.Source.Grammar.Export

/-!
# Statements

Control flow, and the rule for a statement of any kind. A statement yields the item it would be
at top level.
-/

namespace DirectImports.Source.Grammar

open DirectImports.Source.Parser

/-! ## Variables with other beginnings -/

/-- `let` begins a declaration. -/
def atLet : Parser Bool := do
  if ← atWord "let" then
    match (← peek).token with
    | .word name _ => return name != "in" && name != "instanceof"
    | .symbol symbol => return [.openBrace, .openBracket].contains symbol
    | _ => return false
  else return false

/-- The next token is a name on the same line. -/
def nextNamesBinding (next : Lexeme) : Bool :=
  match next.token with
  | .word name _ => !isReserved name && !next.lineBreak
  | _ => false

/-- `using` begins a declaration. -/
def atUsing : Parser Bool := do
  return (← atWord "using") && nextNamesBinding (← peek)

/-- `await using` begins a declaration. -/
def atAwaitUsing : Parser Bool := do
  if ← atWord "await" then
    looksAt do
      advance
      return (← atUsing) && !(← onNewLine)
  else return false

/-- The variables after `using`, which need a name and an initializer. -/
def resources (g : Grammar) : Parser Unit := do
  expectWord "using"
  let entries ← g.declarators
  require (entries.all fun entry => entry.initialized && !entry.isPattern)
  semicolon

/-! ## Control flow -/

/-- A statement that is part of another one. Only a plain function may be declared there, and
that not in a loop. -/
def substatement (g : Grammar) (functionAllowed : Bool) : Parser Unit := do
  let next ← peek
  if (← atWord "class") || (← atWord "const") || (← atAsyncFunction) then report
  if ← atLet then require next.lineBreak
  if ← atWord "function" then require (functionAllowed && next.token != .symbol .star)
  let _ ← g .statement

/-- `if` -/
def ifStatement (g : Grammar) : Parser Unit := do
  expectWord "if"
  g.parenthesized
  g.substatement true
  if ← eatWord "else" then g.substatement true

/-- `do … while`, after which a semicolon may be left out. -/
def doStatement (g : Grammar) : Parser Unit := do
  expectWord "do"
  g.substatement false
  expectWord "while"
  g.parenthesized
  let _ ← eat .semicolon

/-- `while` or `with` -/
def whileStatement (g : Grammar) : Parser Unit := do
  advance
  g.parenthesized
  g.substatement false

/-- The condition and the step of a counting loop. -/
def loopRest (g : Grammar) : Parser Unit := do
  expect .semicolon
  if ← isAt .semicolon then pure () else g.fullValue
  expect .semicolon
  if ← isAt .closeParen then pure () else g.fullValue

/-- `of` or `in` in the head of a loop, and what is looped over. -/
def loopSource (g : Grammar) (isAwait : Bool) : Parser Unit := do
  if ← eatWord "of" then g.valueWithIn
  else
    expectWord "in"
    require !isAwait
    g.fullValue

/-- Takes the words that begin the variables of a loop, and tells whether these are constant. -/
def loopVariables : Parser (Option Bool) := do
  if ← eatWord "var" then return some false
  else if ← eatWord "const" then return some true
  else if ← atLet then
    advance
    return some false
  else if (← atUsing) && (← peek).token != .word "of" false then
    advance
    return some true
  else if ← atAwaitUsing then
    advance
    advance
    return some true
  else return none

/-- The head of a loop that begins with variables. -/
def variableLoopHead (g : Grammar) (isAwait isConstant : Bool) : Parser Unit := do
  let entries ← within ({ · with allowIn := false }) g.declarators
  let isOf ← atWord "of"
  if isOf || (← atWord "in") then
    require (entries.length == 1)
    require (entries.all fun entry => !entry.initialized)
    g.loopSource isAwait
  else
    require !isAwait
    requireInitializers isConstant entries
    g.loopRest

/-- The head of a loop that begins with an expression. -/
def expressionLoopHead (g : Grammar) (isAwait : Bool) : Parser Unit := do
  let e ← within ({ · with allowIn := false }) (g .expression)
  let isOf ← atWord "of"
  if isOf || (← atWord "in") then
    require (e.target != .none)
    require (!isOf || isAwait || e.shape != .identifier "async")
    g.loopSource isAwait
  else
    require (!isAwait && !e.pending)
    g.loopRest

/-- `for` -/
def forStatement (g : Grammar) : Parser Unit := do
  expectWord "for"
  let isAwait ← eatWord "await"
  if isAwait then require (← read).awaitIsKeyword
  expect .openParen
  if ← isAt .semicolon then
    require !isAwait
    g.loopRest
  else
    match ← loopVariables with
    | some isConstant => g.variableLoopHead isAwait isConstant
    | none => g.expressionLoopHead isAwait
  expect .closeParen
  g.substatement false

/-- `break` or `continue` -/
def jumpStatement : Parser Unit := do
  advance
  if (← atBindingName) && !(← onNewLine) then
    let _ ← bindingName
  semicolon

/-- `return` -/
def returnStatement (g : Grammar) : Parser Unit := do
  expectWord "return"
  require (← read).canReturn
  let current ← lexeme
  if current.lineBreak || current.token == .symbol .semicolon
      || current.token == .symbol .closeBrace || current.token == .eof then
    semicolon
  else
    g.fullValue
    semicolon

/-- `throw`, whose value stands on the same line. -/
def throwStatement (g : Grammar) : Parser Unit := do
  expectWord "throw"
  require !(← onNewLine)
  g.fullValue
  semicolon

/-- One case of a `switch`. -/
def switchCase (g : Grammar) : Parser Unit := do
  if ← eatWord "default" then pure ()
  else
    expectWord "case"
    g.fullValue
  expect .colon
  repeating do
    if (← isAt .closeBrace) || (← atWord "case") || (← atWord "default") then return false
    else
      let _ ← g .statement
      return true

/-- `switch` -/
def switchStatement (g : Grammar) : Parser Unit := do
  expectWord "switch"
  g.parenthesized
  expect .openBrace
  repeating do
    if ← isAt .closeBrace then return false
    else
      g.switchCase
      return true
  expect .closeBrace

/-- The parameter of `catch`. -/
def catchParameter (g : Grammar) : Parser Unit := do
  if ← eat .openParen then
    let _ ← g .pattern
    g.typeAnnotation
    expect .closeParen

/-- `try` with `catch`, `finally` or both. -/
def tryStatement (g : Grammar) : Parser Unit := do
  expectWord "try"
  g.block
  let caught ← eatWord "catch"
  if caught then
    g.catchParameter
    g.block
  let finished ← eatWord "finally"
  if finished then g.block
  require (caught || finished)

/-- `debugger` -/
def debuggerStatement : Parser Unit := do
  advance
  semicolon

/-- The rule of a statement that a reserved word begins. -/
def controlStatement? (g : Grammar) : String → Option (Parser Unit)
  | "if" => some g.ifStatement
  | "do" => some g.doStatement
  | "while" => some g.whileStatement
  | "with" => some g.whileStatement
  | "for" => some g.forStatement
  | "break" => some jumpStatement
  | "continue" => some jumpStatement
  | "return" => some g.returnStatement
  | "throw" => some g.throwStatement
  | "switch" => some g.switchStatement
  | "try" => some g.tryStatement
  | "debugger" => some debuggerStatement
  | _ => none

/-! ## Any statement -/

/-- An expression, or a label with its statement. -/
def expressionStatement (g : Grammar) : Parser Item := do
  let e ← within ({ · with allowIn := true }) (settle (g .expression))
  let colon ← isAt .colon
  match e.shape, colon with
  | .identifier _, true =>
    advance
    g.substatement true
    return .other
  | shape, _ =>
    semicolon
    return if shape == .string then .directive else .other

/-- A statement that decorators begin: a class, perhaps exported. -/
def decoratedStatement (g : Grammar) : Parser Item := do
  let _ ← g.decorators
  if ← atWord "export" then g.exportDeclaration true
  else
    let words ← if ← typescript then modifiers else pure []
    require (words.all fun word => word == "declare" || word == "abstract")
    let _ ← g.classDeclared
    return .other

/-- A declaration that is not exported. -/
def declarationStatement (g : Grammar) : Parser Item := do
  let _ ← g.declaration
  return .other

/-- A statement that begins with a word. -/
def wordStatement (g : Grammar) (name : String) : Parser Item := do
  match g.controlStatement? name with
  | some statement =>
    statement
    return .other
  | none =>
    if name == "import" then
      let next := (← peek).token
      if next == .symbol .openParen || next == .symbol .dot then g.expressionStatement
      else importDeclaration
    else if name == "export" then g.exportDeclaration false
    else if ["var", "const", "function", "class"].contains name then g.declarationStatement
    else if (← atLet) || (← atAsyncFunction) then g.declarationStatement
    else if name == "let" then g.expressionStatement
    else if ← atUsing then
      g.resources
      return .other
    else if ← atAwaitUsing then
      require (← read).awaitIsKeyword
      advance
      g.resources
      return .other
    else if (← typescript) && name != "import" && (← atTypedDeclaration) then
      g.declarationStatement
    else g.expressionStatement

/-- A statement. -/
def statementRule (g : Grammar) : Parser Item := do
  match ← token with
  | .symbol .openBrace =>
    g.block
    return .other
  | .symbol .semicolon =>
    advance
    return .other
  | .symbol .atSign => g.decoratedStatement
  | .word name false => g.wordStatement name
  | _ => g.expressionStatement

end DirectImports.Source.Grammar
