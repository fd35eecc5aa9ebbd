import DirectImports.Source.Grammar.Function
import DirectImports.Source.Grammar.Jsx

/-!
# Expressions

From the tightest to the loosest: primary expressions, chains of properties and calls, operators
before and after an operand, binary operators by precedence, conditionals, arrow functions and
assignments.

Whether a parenthesis or `<` begins an arrow function is decided by looking ahead; where that is
not enough the parameters are tried, and given up if no arrow follows.
-/

namespace DirectImports.Source.Grammar

open DirectImports.Source.Parser

/-! ## Object and array literals -/

/-- What an element of a literal contributes. -/
structure Part where
  /-- it could be an element of a pattern -/
  fits : Bool
  /-- it holds a shorthand default -/
  pending : Bool

/-- A method, which no pattern has. -/
def Part.method : Part := ⟨false, false⟩

/-- The literal made of parts. -/
def ofParts (parts : List Part) : Expr :=
  ⟨if parts.all (·.fits) then .pattern else .none, .other, parts.any (·.pending)⟩

/-- A spread element, from after the dots; in a pattern no comma may follow it. -/
def spreadPart (g : Grammar) : Parser Part := do
  let e ← within ({ · with allowIn := true }) (g .assign)
  return ⟨e.target != .none && !(← isAt .comma), e.pending⟩

/-- A plain element. -/
def valuePart (g : Grammar) : Parser Part := do
  let e ← within ({ · with allowIn := true }) (g .assign)
  return ⟨e.fitsPattern, e.pending⟩

/-- One element of an array literal, or the comma after a hole. -/
def arrayPart (g : Grammar) : Parser (Option Part) := do
  if ← isAt .closeBracket then return none
  else if ← eat .comma then return some ⟨true, false⟩
  else
    let part ← if ← eat .ellipsis then g.spreadPart else g.valuePart
    if ← isAt .closeBracket then pure () else expect .comma
    return some part

/-- An array literal. -/
def arrayLiteral (g : Grammar) : Parser Expr := do
  expect .openBracket
  let parts ← collecting g.arrayPart
  expect .closeBracket
  return ofParts parts

/-- A method of an object literal from its name on. -/
def methodPart (g : Grammar) (isAsync isGenerator : Bool) : Parser Part := do
  let _ ← g.propertyName
  let _ ← g.functionRest isAsync isGenerator .required
  return .method

/-- A getter or setter of an object literal from its name on. -/
def accessorPart (g : Grammar) (isSetter : Bool) : Parser Part := do
  let _ ← g.propertyName
  g.accessorRest isSetter .required
  return .method

/-- One property of an object literal that begins with its name. -/
def propertyPart (g : Grammar) : Parser Part := do
  let current ← token
  let name ← g.propertyName
  if (← isAt .openParen) || (← isAt .less) then
    let _ ← g.functionRest false false .required
    return .method
  else if ← eat .colon then g.valuePart
  else
    match name, current with
    | .word word, .word .. =>
      ensure !isReserved word
      let context ← read
      require !(word == "await" && context.awaitIsKeyword)
      require !(word == "yield" && context.yieldIsKeyword)
      let pending ← g.initializer
      return ⟨true, pending⟩
    | _, _ => failure

/-- One property of an object literal. -/
def objectPart (g : Grammar) : Parser Part := do
  let next ← peek
  let nextBegins := isPropertyStart next.token
  if ← eat .ellipsis then g.spreadPart
  else if ← eat .star then g.methodPart false true
  else if ((← atWord "get") || (← atWord "set")) && nextBegins then
    let isSetter ← atWord "set"
    advance
    g.accessorPart isSetter
  else if (← atWord "async") && !next.lineBreak && (nextBegins || next.token == .symbol .star) then
    advance
    g.methodPart true (← eat .star)
  else g.propertyPart

/-- An object literal. -/
def objectLiteral (g : Grammar) : Parser Expr := do
  expect .openBrace
  return ofParts (← commaList .closeBrace g.objectPart)

/-! ## Primary expressions -/

/-- An expression in parentheses; a name or property keeps being a target. -/
def group (g : Grammar) : Parser Expr := do
  expect .openParen
  let inner ← within ({ · with allowIn := true, betweenBranches := false, inDecorator := false })
    (settle (g .expression))
  expect .closeParen
  return if inner.target == .simple then Expr.property else Expr.value

/-- A regular expression, where a slash cannot be an operator. -/
def regularExpression : Parser Expr := do
  reread Lexeme.asRegex
  match ← token with
  | .regex =>
    advance
    return Expr.value
  | _ => failure

/-- A name used as an expression. -/
def nameExpression (name : String) : Parser Expr := do
  ensure !isReserved name
  let context ← read
  require !(name == "yield" && context.yieldIsKeyword)
  require !(name == "await" && context.awaitIsKeyword)
  advance
  return ⟨.simple, .identifier name, false⟩

/-- Reserved words that are expressions by themselves. -/
def wordValues : List String := ["this", "null", "true", "false"]

/-- An expression that begins with a word. -/
def wordExpression (g : Grammar) (name : String) (escaped : Bool) : Parser Expr := do
  if escaped then nameExpression name
  else if wordValues.contains name then
    advance
    return Expr.value
  else if name == "function" then
    g.functionExpression false
    return Expr.value
  else if ← atAsyncFunction then
    advance
    g.functionExpression true
    return Expr.value
  else if name == "class" then
    let _ ← g.classRest
    return Expr.value
  else nameExpression name

/-- An expression without operators around it. -/
def primary (g : Grammar) : Parser Expr := do
  match ← token with
  | .word name escaped => g.wordExpression name escaped
  | .string .. =>
    advance
    return Expr.shaped .string
  | .number | .bigint =>
    advance
    return Expr.value
  | .template .. =>
    template false g.fullValue
    return Expr.value
  | .symbol .openParen => g.group
  | .symbol .openBracket => g.arrayLiteral
  | .symbol .openBrace => g.objectLiteral
  | .symbol .slash | .symbol .slashAssign => regularExpression
  | .symbol .atSign =>
    let _ ← g.decorators
    let _ ← g.classRest
    return Expr.value
  | .privateName _ =>
    advance
    ensure (← atWord "in")
    return Expr.value
  | _ => failure

/-! ## Properties and calls -/

/-- The arguments of a call. -/
def arguments (g : Grammar) : Parser Unit := do
  expect .openParen
  let _ ← within ({ · with allowIn := true, betweenBranches := false, inDecorator := false })
    (commaList .closeParen do
      let _ ← eat .ellipsis
      g.value)

/-- The name after a dot. -/
def memberName : Parser Unit := do
  match ← token with
  | .word .. | .privateName _ => advance
  | _ => failure

/-- An expression in brackets. -/
def subscript (g : Grammar) : Parser Unit := do
  expect .openBracket
  within ({ · with inDecorator := false, betweenBranches := false }) g.fullValue
  expect .closeBracket

/-- What may follow type arguments in an expression. -/
def endsTypeArguments : Parser Bool := do
  let current ← lexeme
  match current.token with
  | .symbol .openParen => return true
  | .template .. => return true
  | .symbol .less | .symbol .greater | .symbol .plus | .symbol .minus => return false
  | .word name _ =>
    return current.lineBreak || name == "in" || name == "instanceof" || name == "as"
      || name == "satisfies"
  | .string .. | .number | .bigint | .privateName _ | .regex => return current.lineBreak
  | .symbol .openBracket | .symbol .openBrace | .symbol .bang | .symbol .tilde
  | .symbol .increment | .symbol .decrement | .symbol .slash | .symbol .atSign =>
    return current.lineBreak
  | _ => return true

/-- Type arguments inside an expression, if that is what `<` begins. -/
def tryTypeArguments (g : Grammar) : Parser Bool := do
  if !(← typescript) then return false
  else
    match ← token with
    | .symbol .less | .symbol .shiftLeft =>
      let found ← attempt do
        g.typeArguments
        ensure (← endsTypeArguments)
      return found.isSome
    | _ => return false

/-- A chain of properties and calls: what it has come to, and whether it holds `?.`. -/
structure Chain where
  expr : Expr
  optional : Bool

/-- The chain after a property. -/
def Chain.property (chain : Chain) : Chain :=
  { chain with expr := if chain.optional then Expr.value else Expr.property }

/-- The chain after a call. -/
def Chain.call (chain : Chain) : Chain :=
  { chain with expr := Expr.value }

/-- What follows `?.`. -/
def optionalLink (g : Grammar) (chain : Chain) : Parser Chain := do
  let chain := { chain with optional := true }
  if ← isAt .openParen then
    g.arguments
    return chain.call
  else if ← isAt .openBracket then
    g.subscript
    return chain.property
  else if ← g.tryTypeArguments then
    g.arguments
    return chain.call
  else
    memberName
    return chain.property

/-- One more link of a chain; calls only where they belong to it. -/
def nextLink (g : Grammar) (calls : Bool) (chain : Chain) : Parser (Option Chain) := do
  if ← eat .dot then
    memberName
    return some chain.property
  else if calls && (← isAt .optionalDot) then
    advance
    return some (← g.optionalLink chain)
  else if (← isAt .openBracket) && !(← read).inDecorator then
    g.subscript
    return some chain.property
  else if (← isAt .bang) && (← typescript) && !(← onNewLine) then
    advance
    return some { chain with expr := { chain.expr with shape := .other } }
  else if (← token) matches .template .. then
    require !chain.optional
    template true g.fullValue
    return some chain.call
  else if !calls then return none
  else if ← isAt .openParen then
    g.arguments
    return some chain.call
  else if ← g.tryTypeArguments then
    if ← isAt .openParen then g.arguments
    return some chain.call
  else return none

/-- One more link of a chain, which cannot follow a pending shorthand default. -/
def chainLink (g : Grammar) (calls : Bool) (chain : Chain) : Parser (Option Chain) := do
  let next ← g.nextLink calls chain
  if next.isSome then require !chain.expr.pending
  return next

/-- The links after the first part of a chain. -/
def chainRest (g : Grammar) (calls : Bool) (first : Expr) : Parser Expr := do
  let chain ← iterating (g.chainLink calls) ⟨first, false⟩
  return chain.expr

/-- `new` and what it constructs. -/
def newExpression (g : Grammar) : Parser Expr := do
  expectWord "new"
  if ← eat .dot then
    expectWord "target"
    return Expr.value
  else
    ensure !(← atWord "import")
    if ← atWord "new" then
      let _ ← g .leftHand
    else
      let first ←
        if ← atWord "super" then
          advance
          pure Expr.value
        else g.primary
      let _ ← g.chainRest false first
      require !(← isAt .optionalDot)
      let _ ← g.tryTypeArguments
      if ← isAt .openParen then g.arguments
    return Expr.value

/-- `super` and the call or property after it. -/
def superExpression : Parser Expr := do
  expectWord "super"
  ensure ((← isAt .openParen) || (← isAt .dot) || (← isAt .openBracket))
  return Expr.value

/-- The specifier and the options of a dynamic import. -/
def importArguments (g : Grammar) : Parser Expr := do
  expect .openParen
  within ({ · with betweenBranches := false, inDecorator := false }) do
    g.valueWithIn
    if ← eat .comma then
      if ← isAt .closeParen then pure ()
      else
        g.valueWithIn
        let _ ← eat .comma
  expect .closeParen
  return Expr.value

/-- `import(…)`, `import.meta` and the calls with a phase. -/
def importExpression (g : Grammar) : Parser Expr := do
  expectWord "import"
  if ← eat .dot then
    if ← eatWord "meta" then return Expr.value
    else
      ensure ((← atWord "defer") || (← atWord "source"))
      advance
      g.importArguments
  else g.importArguments

/-- An expression that can be called. -/
def leftHandRule (g : Grammar) : Parser Expr := do
  let first ←
    if ← atWord "new" then g.newExpression
    else if ← atWord "super" then superExpression
    else if ← atWord "import" then g.importExpression
    else g.primary
  g.chainRest true first

/-! ## Operators around an operand -/

/-- Words that are operators before an operand. -/
def unaryWords : List String := ["delete", "void", "typeof"]

/-- The current token is an operator before an operand. -/
def isUnaryOperator : Token → Bool
  | .symbol .plus => true
  | .symbol .minus => true
  | .symbol .tilde => true
  | .symbol .bang => true
  | .word name false => unaryWords.contains name
  | _ => false

/-- `await` is an operator here, or is used like one. -/
def atAwait : Parser Bool := do
  if ← atWord "await" then
    if (← read).awaitIsKeyword then return true
    else
      let next ← peek
      match next.token with
      | .word name _ => return !next.lineBreak && !(["in", "of", "instanceof", "as"].contains name)
      | .string .. | .number | .bigint | .privateName _ => return !next.lineBreak
      | _ => return false
  else return false

/-- The current token is `++` or `--`. -/
def atUpdate : Parser Bool := do
  return (← isAt .increment) || (← isAt .decrement)

/-- An operand with `++` or `--` behind it. -/
def postfixExpression (g : Grammar) : Parser Expr := do
  let e ← g .leftHand
  if (← atUpdate) && !(← onNewLine) then
    require (e.target == .simple)
    advance
    return Expr.value
  else return e

/-- `<T>e` -/
def typeAssertion (g : Grammar) : Parser Expr := do
  expect .less
  g .type
  expect .greater
  let e ← settle (g .unary)
  return ⟨if e.target == .simple then .simple else .none, .unary, false⟩

/-- An operand with the operators before it. -/
def unaryRule (g : Grammar) : Parser Expr := do
  let context ← read
  if isUnaryOperator (← token) then
    advance
    let _ ← settle (g .unary)
    return Expr.shaped .unary
  else if ← atUpdate then
    advance
    let e ← settle (g .unary)
    require (e.target == .simple)
    return Expr.value
  else if ← isAt .less then
    if context.dialect.jsx then
      g (.jsx false)
      return Expr.value
    else
      ensure context.dialect.typescript
      g.typeAssertion
  else if ← atAwait then
    require context.awaitIsKeyword
    advance
    let _ ← settle (g .unary)
    return Expr.shaped .unary
  else g.postfixExpression

/-! ## Binary operators -/

/-- A binary operator: its level, the greater the tighter, and its shape. -/
structure Operator where
  level : Nat
  shape : Shape
  rightAssociative : Bool

/-- The binary operator of a punctuator. -/
def symbolOperator? : Symbol → Option Operator
  | .coalesce => some ⟨1, .coalesce, false⟩
  | .pipePipe => some ⟨2, .logical, false⟩
  | .ampAmp => some ⟨3, .logical, false⟩
  | .pipe => some ⟨4, .other, false⟩
  | .caret => some ⟨5, .other, false⟩
  | .amp => some ⟨6, .other, false⟩
  | .equal | .notEqual | .strictEqual | .strictNotEqual => some ⟨7, .other, false⟩
  | .less | .greater | .lessEqual | .greaterEqual => some ⟨8, .other, false⟩
  | .shiftLeft | .shiftRight | .shiftRightZero => some ⟨9, .other, false⟩
  | .plus | .minus => some ⟨10, .other, false⟩
  | .star | .slash | .percent => some ⟨11, .other, false⟩
  | .power => some ⟨12, .other, true⟩
  | _ => none

/-- The level of comparisons, to which `in`, `instanceof`, `as` and `satisfies` belong. -/
def relationLevel : Nat := 8

/-- The binary operator the current token is. -/
def operator? : Parser (Option Operator) := do
  if ← isAt .greater then reread Lexeme.asOperator
  match ← token with
  | .symbol symbol => return symbolOperator? symbol
  | .word "instanceof" false => return some ⟨relationLevel, .other, false⟩
  | .word "in" false =>
    return if (← read).allowIn then some ⟨relationLevel, .other, false⟩ else none
  | _ => return none

/-- `as T` or `satisfies T` on the same line. -/
def atTypeOperation : Parser Bool := do
  return (← typescript) && !(← onNewLine) && ((← atWord "as") || (← atWord "satisfies"))

/-- The operand of `as` and `satisfies`. -/
def typeOperation (g : Grammar) : Parser Unit := do
  advance
  within ({ · with conditionalTypes := true }) (g .type)

/-- One more operator and operand. -/
def binaryStep (g : Grammar) (level : Nat) (left : Expr) : Parser (Option Expr) := do
  if ← atTypeOperation then
    if level < relationLevel then
      require !left.pending
      g.typeOperation
      return some { left with
        target := if left.target == .simple then .simple else .none, shape := .other }
    else return none
  else
    match ← operator? with
    | none => return none
    | some operator =>
      if operator.level ≤ level then return none
      else
        require !left.pending
        advance
        let right ←
          settle (g (.binary (if operator.rightAssociative then operator.level - 1
            else operator.level)))
        if operator.rightAssociative then require (left.shape != .unary)
        match operator.shape with
        | .coalesce => require (left.shape != .logical && right.shape != .logical)
        | .logical => require (left.shape != .coalesce && right.shape != .coalesce)
        | _ => pure ()
        return some (Expr.shaped operator.shape)

/-- Operands joined by operators that bind more tightly than a level. -/
def binaryRule (g : Grammar) (level : Nat) : Parser Expr := do
  iterating (g.binaryStep level) (← g .unary)

/-! ## Arrow functions -/

/-- Whether an arrow function begins here. -/
inductive Certainty
  | yes
  | no
  | maybe
deriving DecidableEq

/-- What a parenthesis begins, from after it. -/
def afterParen : Parser Certainty := do
  match ← token with
  | .symbol .closeParen =>
    advance
    return if (← isAt .arrow) || (← isAt .colon) || (← isAt .openBrace) then .maybe else .no
  | .symbol .openBracket | .symbol .openBrace => return .maybe
  | .symbol .ellipsis => return .yes
  | .symbol .atSign => return .maybe
  | .word name _ =>
    if ← atParameterModifier then
      return if (← peek).token == .word "as" false then .no else .yes
    else if isReserved name && name != "this" then return .no
    else
      advance
      match ← token with
      | .symbol .colon => return if ← typescript then .yes else .no
      | .symbol .question =>
        advance
        return if (← isAt .colon) || (← isAt .comma) || (← isAt .assign) || (← isAt .closeParen)
          then .yes else .no
      | .symbol .comma | .symbol .assign | .symbol .closeParen => return .maybe
      | _ => return .no
  | _ => return .no

/-- What `<` begins, from after it. -/
def afterLess : Parser Certainty := do
  if !(← typescript) then return .no
  else if !((← atBindingName) || (← atWord "const")) then return .no
  else if (← read).dialect.jsx then
    let _ ← eatWord "const"
    advance
    if ← eatWord "extends" then
      return if (← isAt .assign) || (← isAt .greater) || (← isAt .slash) then .no else .yes
    else return if (← isAt .comma) || (← isAt .assign) then .yes else .no
  else return .maybe

/-- What a parenthesis or `<` begins. -/
def atParameters : Parser Certainty := do
  if ← eat .openParen then afterParen
  else if ← eat .less then afterLess
  else return .no

/-- Whether an arrow function with a list of parameters begins here. -/
def arrowCertainty : Parser Certainty := do
  let found ← look do
    if ← atWord "async" then
      advance
      if ← onNewLine then return .no else atParameters
    else atParameters
  return found.getD .no

/-- What follows the arrow. -/
def arrowBody (g : Grammar) (isAsync : Bool) : Parser Unit := do
  if ← isAt .openBrace then
    within (functionContext isAsync false) g.functionBody
  else
    within ({ · with awaitIsKeyword := isAsync, yieldIsKeyword := false, canReturn := true })
      g.value

/-- An arrow function with a list of parameters. Between the branches of a conditional, one with
a result type counts only if the colon of the conditional follows it. -/
def arrowFunction (g : Grammar) : Parser Expr := do
  let isAsync ← eatWord "async"
  let annotated ← within (functionContext isAsync false) do
    g.typeParameters
    let parameters ← g.parameters
    require !parameters.receiver
    let annotated ← isAt .colon
    g.returnType
    pure annotated
  ensure (← isAt .arrow)
  require !(← onNewLine)
  advance
  g.arrowBody isAsync
  if annotated && (← read).betweenBranches then ensure (← isAt .colon)
  return Expr.shaped .arrow

/-- An arrow function whose parameter is a bare name. -/
def atBareArrow : Parser Bool := do
  if ← atBindingName then
    let next ← peek
    return next.token == .symbol .arrow && !next.lineBreak
  else return false

/-- `async` before a bare name and an arrow. -/
def atAsyncBareArrow : Parser Bool := do
  if ← atWord "async" then
    looksAt do
      advance
      ensure !(← onNewLine)
      atBareArrow
  else return false

/-- An arrow function whose parameter is a bare name, from that name on. -/
def bareArrow (g : Grammar) (isAsync : Bool) : Parser Expr := do
  let _ ← within ({ · with awaitIsKeyword := isAsync }) bindingName
  expect .arrow
  g.arrowBody isAsync
  return Expr.shaped .arrow

/-- An arrow function, if one begins here. -/
def tryArrow (g : Grammar) : Parser (Option Expr) := do
  if ← atAsyncBareArrow then
    advance
    return some (← g.bareArrow true)
  else if ← atBareArrow then return some (← g.bareArrow false)
  else
    match ← arrowCertainty with
    | .no => return none
    | .maybe => attempt g.arrowFunction
    | .yes =>
      if (← read).betweenBranches then attempt g.arrowFunction
      else return some (← g.arrowFunction)

/-! ## Assignments -/

/-- `yield` and what it yields. -/
def yieldExpression (g : Grammar) : Parser Expr := do
  expectWord "yield"
  if ← onNewLine then return Expr.value
  else if ← eat .star then
    g.value
    return Expr.value
  else
    match ← token with
    | .symbol .closeParen | .symbol .closeBracket | .symbol .closeBrace | .symbol .comma
    | .symbol .semicolon | .symbol .colon | .eof => return Expr.value
    | .word "in" false | .word "of" false => return Expr.value
    | _ =>
      g.value
      return Expr.value

/-- Operators that assign and compute. -/
def isCompoundAssignment : Token → Bool
  | .symbol symbol =>
    [.plusAssign, .minusAssign, .starAssign, .powerAssign, .slashAssign, .percentAssign,
     .shiftLeftAssign, .shiftRightAssign, .shiftRightZeroAssign, .ampAssign, .pipeAssign,
     .caretAssign, .ampAmpAssign, .pipePipeAssign, .coalesceAssign].contains symbol
  | _ => false

/-- What may follow the condition, target or value that begins an assignment. -/
def assignmentRest (g : Grammar) (left : Expr) : Parser Expr := do
  if ← isAt .assign then
    require (left.target != .none)
    advance
    g.value
    return Expr.shaped .assignment
  else if isCompoundAssignment (← token) then
    require (left.target == .simple && !left.pending)
    advance
    g.value
    return Expr.value
  else if ← isAt .question then
    require !left.pending
    advance
    within ({ · with allowIn := true, betweenBranches := true }) g.value
    expect .colon
    g.value
    return Expr.value
  else return left

/-- An expression up to the next comma. -/
def assignRule (g : Grammar) : Parser Expr := do
  if (← atWord "yield") && (← read).yieldIsKeyword then g.yieldExpression
  else
    match ← g.tryArrow with
    | some arrow => return arrow
    | none => g.assignmentRest (← g (.binary 0))

/-- An expression, commas included. -/
def expressionRule (g : Grammar) : Parser Expr := do
  let first ← g .assign
  iterating (fun left => do
    if ← eat .comma then
      require !left.pending
      let _ ← settle (g .assign)
      return some Expr.value
    else return none) first

end DirectImports.Source.Grammar
