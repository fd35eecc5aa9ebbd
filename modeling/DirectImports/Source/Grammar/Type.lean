import DirectImports.Source.Grammar.Pattern

/-!
# Types

The grammar of types. A type never yields anything: it is read to know where it ends.
-/

namespace DirectImports.Source.Grammar

open DirectImports.Source.Parser

/-! ## Arguments and parameters of types -/

/-- The current token begins with `<`, which is then read alone. -/
def atTypeArguments : Parser Bool := do
  match ← token with
  | .symbol .less => return true
  | .symbol .shiftLeft | .symbol .lessEqual | .symbol .shiftLeftAssign =>
    reread (Lexeme.asSingle .less)
    return true
  | _ => return false

/-- Types in angle brackets, at least one. -/
def typeArguments (g : Grammar) : Parser Unit := do
  ensure (← atTypeArguments)
  advance
  let arguments ←
    commaList .greater (within ({ · with conditionalTypes := true }) (g .type))
  require !arguments.isEmpty

/-- Type arguments on the same line, if there are any. -/
def optionalTypeArguments (g : Grammar) : Parser Unit := do
  if ← onNewLine then pure ()
  else if ← atTypeArguments then g.typeArguments
  else pure ()

/-- One type parameter with its modifiers, constraint and default. -/
def typeParameter (g : Grammar) : Parser Unit := do
  repeating do
    match ← token with
    | .word name false =>
      if name == "const" || name == "in" || name == "out" then
        match (← peek).token with
        | .word next _ =>
          if next == "extends" && name == "out" then return false
          else
            advance
            return true
        | _ => return false
      else return false
    | _ => return false
  let _ ← bindingName
  if ← eatWord "extends" then g .type
  if ← eat .assign then g .type

/-- Type parameters in angle brackets, if the language has types and there are any. -/
def typeParameters (g : Grammar) : Parser Unit := do
  if (← typescript) && (← isAt .less) then
    advance
    let parameters ←
      commaList .greater (within ({ · with conditionalTypes := true }) g.typeParameter)
    require !parameters.isEmpty

/-! ## Return types -/

/-- `asserts x` or `asserts x is T`. -/
def assertionPredicate (g : Grammar) : Parser Unit := do
  expectWord "asserts"
  ensure !(← onNewLine)
  let _ ← anyWord
  if ← eatWord "is" then g .type

/-- `asserts` is followed by a name on its line. -/
def atAssertion : Parser Bool := do
  if ← atWord "asserts" then
    match ← peek with
    | { token := .word name _, lineBreak := false, .. } =>
      return (!isReserved name || name == "this") && name != "is"
    | _ => return false
  else return false

/-- A word is followed by `is` on its line. -/
def atPredicate : Parser Bool := do
  match ← token with
  | .word .. =>
    let next ← peek
    return next.token == .word "is" false && !next.lineBreak
  | _ => return false

/-- The type of a result: a type or a predicate. -/
def returnTypeBody (g : Grammar) : Parser Unit := do
  if ← atAssertion then g.assertionPredicate
  else if ← atPredicate then
    advance
    advance
    g .type
  else g .type

/-- The type of a result after a colon, if there is one. -/
def returnType (g : Grammar) : Parser Unit := do
  if (← typescript) && (← isAt .colon) then
    advance
    within ({ · with conditionalTypes := true }) g.returnTypeBody

/-- Parameters and result of a signature. -/
def signature (g : Grammar) : Parser Unit := do
  g.typeParameters
  let _ ← g.parameters
  g.returnType

/-! ## Names -/

/-- A name with dots, from its first word on; the words after a dot may be keywords. -/
def dottedName (first : Parser Unit) : Parser Unit := do
  first
  repeating do
    if ← eat .dot then
      match ← token with
      | .privateName _ => advance
      | _ =>
        let _ ← anyWord
      return true
    else return false

/-- A name with dots and type arguments; `const` and other keywords count as names here. -/
def typeReference (g : Grammar) : Parser Unit := do
  dottedName do
    let _ ← anyWord
  g.optionalTypeArguments

/-! ## Object types -/

/-- The end of a member of an object type. -/
def memberEnd : Parser Unit := do
  if ← eat .comma then pure () else semicolon

/-- A bracket begins an index signature. -/
def atIndexSignature : Parser Bool := do
  if ← isAt .openBracket then
    looksAt do
      advance
      if ← isAt .ellipsis then return true
      else if ← atBindingName then
        advance
        return (← isAt .colon) || (← isAt .comma)
      else return false
  else return false

/-- A type after a colon that must be there. -/
def requiredAnnotation (g : Grammar) : Parser Unit := do
  ensure (← isAt .colon)
  g.typeAnnotation

/-- `[key: T]: U` -/
def indexSignature (g : Grammar) : Parser Unit := do
  expect .openBracket
  let _ ← anyWord
  g.requiredAnnotation
  expect .closeBracket
  g.requiredAnnotation

/-- A word before a member is followed by the member's name. -/
def atMemberModifier (names : List String) : Parser Bool := do
  match ← token with
  | .word name false =>
    if names.contains name then
      let next ← peek
      return isPropertyStart next.token && !next.lineBreak
    else return false
  | _ => return false

/-- Words that could stand before a member; in an object type only `readonly` may. -/
def typeMemberModifiers : List String :=
  ["readonly", "static", "public", "private", "protected", "abstract", "declare", "override"]

/-- One member of an interface or object type. -/
def typeMember (g : Grammar) : Parser Unit := do
  let next ← peek
  if (← isAt .openParen) || (← isAt .less) then g.signature
  else if (← atWord "new")
      && (next.token == .symbol .openParen || next.token == .symbol .less) then
    advance
    g.signature
  else
    repeating do
      if ← atMemberModifier typeMemberModifiers then
        require (← atWord "readonly")
        advance
        return true
      else return false
    if ← atMemberModifier ["get", "set"] then
      advance
      let _ ← g.propertyName
      g.signature
    else if ← atIndexSignature then g.indexSignature
    else
      let _ ← g.propertyName
      let _ ← eat .question
      if (← isAt .openParen) || (← isAt .less) then g.signature else g.typeAnnotation
  memberEnd

/-- The members of an interface or object type in braces. -/
def typeMembers (g : Grammar) : Parser Unit := do
  expect .openBrace
  within ({ · with conditionalTypes := true }) do
    repeating do
      if ← isAt .closeBrace then return false
      else
        g.typeMember
        return true
  expect .closeBrace

/-- A brace begins a mapped type. -/
def atMappedType : Parser Bool :=
  looksAt do
    expect .openBrace
    if (← isAt .plus) || (← isAt .minus) then
      advance
      return (← atWord "readonly")
    else
      let _ ← eatWord "readonly"
      expect .openBracket
      let _ ← anyWord
      return (← atWord "in")

/-- `+` or `-` before a word or sign, or neither. -/
def signed (mark : Parser Bool) : Parser Unit := do
  if (← isAt .plus) || (← isAt .minus) then
    advance
    ensure (← mark)
  else
    let _ ← mark

/-- `{ readonly [K in T as U]?: V }` -/
def mappedType (g : Grammar) : Parser Unit :=
  within ({ · with conditionalTypes := true }) do
    expect .openBrace
    signed (eatWord "readonly")
    expect .openBracket
    let _ ← bindingName
    expectWord "in"
    g .type
    if ← eatWord "as" then g .type
    expect .closeBracket
    signed (eat .question)
    g.typeAnnotation
    if ← isAt .closeBrace then pure () else memberEnd
    expect .closeBrace

/-! ## Tuples -/

/-- The element of a tuple has a name. -/
def atNamedElement : Parser Bool :=
  looksAt do
    let _ ← anyWord
    if ← eat .question then isAt .colon else isAt .colon

/-- One element of a tuple type. With a name it cannot both be left out and take the rest. -/
def tupleElement (g : Grammar) : Parser Unit := do
  let rest ← eat .ellipsis
  if ← atNamedElement then
    let _ ← anyWord
    let optional ← eat .question
    require !(rest && optional)
    expect .colon
    let _ ← eat .ellipsis
  g .type

/-! ## Templates -/

/-- A template with something in each substitution; without a tag its escapes must be
well-formed. -/
def template (tagged : Bool) (inside : Parser Unit) : Parser Unit := do
  repeating do
    match ← token with
    | .template last wellFormed =>
      require (tagged || wellFormed)
      advance
      if last then return false
      else
        inside
        ensure (← isAt .closeBrace)
        reread Lexeme.asTemplateRest
        return true
    | _ => failure

/-! ## Primary types -/

/-- `import('m').A<T>` -/
def importType (g : Grammar) : Parser Unit := do
  expectWord "import"
  expect .openParen
  g .type
  if ← eat .comma then
    if ← isAt .closeParen then pure () else g.value
    let _ ← eat .comma
  expect .closeParen
  dottedName (pure ())
  g.optionalTypeArguments

/-- `typeof x` -/
def typeQuery (g : Grammar) : Parser Unit := do
  expectWord "typeof"
  if ← atWord "import" then g.importType
  else
    dottedName do
      let name ← anyWord
      ensure (!isReserved name || name == "this")
    g.optionalTypeArguments

/-- Reserved words that are types. -/
def reservedTypes : List String := ["void", "null", "true", "false", "this"]

/-- Words that are types by themselves unless a dot follows. -/
def keywordTypes : List String :=
  ["any", "unknown", "string", "number", "bigint", "symbol", "boolean", "undefined", "never",
   "object"]

/-- `this`, or a predicate about it. -/
def thisType (g : Grammar) : Parser Unit := do
  expectWord "this"
  if (← atWord "is") && !(← onNewLine) then
    advance
    g .type

/-- A type that begins with a word. -/
def wordType (g : Grammar) (name : String) : Parser Unit := do
  if ← atWord "this" then g.thisType
  else if reservedTypes.contains name then advance
  else if keywordTypes.contains name && (← peek).token != .symbol .dot then advance
  else if ← atAssertion then g.assertionPredicate
  else g.typeReference

/-- A tuple type. -/
def tupleType (g : Grammar) : Parser Unit := do
  expect .openBracket
  let _ ← commaList .closeBracket
    (within ({ · with conditionalTypes := true }) g.tupleElement)

/-- What a type is made of, as far as `readonly` before it asks. -/
inductive TypeShape
  /-- an array or a tuple -/
  | list
  | other
deriving DecidableEq

/-- A type without operators around it. -/
def primaryType (g : Grammar) : Parser TypeShape := do
  match ← token with
  | .symbol .openBracket =>
    g.tupleType
    return .list
  | .string .. | .number | .bigint => advance
  | .template .. => template false (g .type)
  | .symbol .minus =>
    advance
    match ← token with
    | .number | .bigint => advance
    | _ => failure
  | .symbol .openBrace => if ← atMappedType then g.mappedType else g.typeMembers
  | .symbol .openParen =>
    advance
    within ({ · with conditionalTypes := true }) (g .type)
    expect .closeParen
  | .word "typeof" false => g.typeQuery
  | .word "import" false => g.importType
  | .word name _ => g.wordType name
  | _ => failure
  return .other

/-- Words that a type can begin with although they name none. -/
def typeStartWords : List String := reservedTypes ++ ["typeof", "new", "import", "function"]

/-- Whether a type can begin with a token, in an expression as far as one more token tells. -/
def startsType (current next : Token) : Bool :=
  match current with
  | .string .. | .number | .bigint | .template .. => true
  | .word name _ => !isReserved name || typeStartWords.contains name
  | .symbol .minus => next == .number || next == .bigint
  | .symbol .openParen => next != .eof
  | .symbol symbol =>
    [.openBrace, .openBracket, .less, .pipe, .amp, .star, .question, .bang].contains symbol
  | _ => false

/-- The current token is a mark after a type rather than part of a condition. -/
def atTypeMark : Parser Bool := do
  if ← isAt .question then
    let found ← look do
      advance
      return startsType (← token) (← peek).token
    return !found.getD false
  else isAt .bang

/-- A subscript or the brackets of an array, and which of the two it is. -/
def typeSubscript (g : Grammar) : Parser TypeShape := do
  expect .openBracket
  if ← eat .closeBracket then return .list
  else
    within ({ · with conditionalTypes := true }) (g .type)
    expect .closeBracket
    return .other

/-- One more part behind a type on its line. -/
def typeSuffix (g : Grammar) (_ : TypeShape) : Parser (Option TypeShape) := do
  if ← onNewLine then return none
  else if ← isAt .openBracket then return some (← g.typeSubscript)
  else if ← atTypeMark then
    advance
    return some .other
  else return none

/-- A type with its array brackets, subscripts and marks. -/
def postfixType (g : Grammar) : Parser TypeShape := do
  let marked := (← isAt .question) || (← isAt .bang)
  if marked then advance
  let shape ← within ({ · with conditionalTypes := true }) g.primaryType
  let shape ← iterating g.typeSuffix shape
  return if marked then .other else shape

/-! ## Operators on types -/

/-- The constraint of an inferred type, unless it turns out to be a condition. -/
def inferConstraint (g : Grammar) : Parser Unit := do
  let _ ← attempt do
    expectWord "extends"
    within ({ · with conditionalTypes := false }) (g .type)
    if (← read).conditionalTypes then ensure !(← isAt .question)

/-- `infer T` -/
def inferredType (g : Grammar) : Parser Unit := do
  expectWord "infer"
  let _ ← bindingName
  g.inferConstraint

/-- The operators before a type, and whether the last of them is `readonly`. -/
def typeOperators : Parser Bool :=
  iterating (fun readOnly => do
    let next ← atWord "readonly"
    if next || (← atWord "keyof") || (← atWord "unique") then
      require !readOnly
      advance
      return some next
    else return none) false

/-- A type after its operators; only an array or tuple can be `readonly`. -/
def operatorType (g : Grammar) : Parser Unit := do
  let readOnly ← typeOperators
  if ← atWord "infer" then
    require !readOnly
    g.inferredType
  else
    let shape ← g.postfixType
    require (!readOnly || shape == .list)

/-- Types joined by an operator, which may also stand before the first. -/
def joinedTypes (operator : Symbol) (operand : Parser Unit) : Parser Unit := do
  let _ ← eat operator
  operand
  repeating do
    if ← eat operator then
      operand
      return true
    else return false

/-! ## Functions -/

/-- One step over something between brackets: the depth after the current token, none at its end. -/
def balancedStep (opening closing : Symbol) (depth : Nat) : Parser (Option Nat) := do
  let current ← token
  ensure (current != .eof && current != .invalid)
  advance
  if current == .symbol opening then return some (depth + 1)
  else if current == .symbol closing then
    return if depth ≤ 1 then none else some (depth - 1)
  else return some depth

/-- Skips something between brackets without looking at what it holds. -/
def skipBalanced (opening closing : Symbol) : Parser Unit := do
  let _ ← iterating (balancedStep opening closing) 0

/-- A parenthesis begins a list of parameters rather than a type. -/
def atFunctionParameters : Parser Bool :=
  looksAt do
    expect .openParen
    if (← isAt .closeParen) || (← isAt .ellipsis) then return true
    else
      if ← atParameterModifier then advance
      let begun ←
        if (← atBindingName) || (← atWord "this") then
          advance
          pure true
        else if ← isAt .openBrace then
          pure (← attempt (skipBalanced .openBrace .closeBrace)).isSome
        else if ← isAt .openBracket then
          pure (← attempt (skipBalanced .openBracket .closeBracket)).isSome
        else pure false
      if !begun then return false
      else if (← isAt .colon) || (← isAt .comma) || (← isAt .question) || (← isAt .assign) then
        return true
      else if ← eat .closeParen then isAt .arrow
      else return false

/-- The type of a function or constructor begins here. -/
def atFunctionType : Parser Bool := do
  if ← isAt .less then return true
  else if ← isAt .openParen then atFunctionParameters
  else if ← atWord "new" then return true
  else if ← atWord "abstract" then return (← peek).token == .word "new" false
  else return false

/-- The type of a function or constructor. -/
def functionType (g : Grammar) : Parser Unit := do
  let _ ← eatWord "abstract"
  let _ ← eatWord "new"
  g.typeParameters
  let _ ← g.parameters
  expect .arrow
  g.returnTypeBody

/-- An operand of `|` and `&`. -/
def typeOperand (g : Grammar) : Parser Unit := do
  if ← atFunctionType then
    report
    g.functionType
  else g.operatorType

/-- A union of intersections. -/
def unionType (g : Grammar) : Parser Unit :=
  joinedTypes .pipe (joinedTypes .amp g.typeOperand)

/-- A type. -/
def typeRule (g : Grammar) : Parser Unit := do
  if ← atFunctionType then g.functionType
  else
    g.unionType
    if (← read).conditionalTypes && !(← onNewLine) && (← atWord "extends") then
      advance
      within ({ · with conditionalTypes := false }) (g .type)
      expect .question
      within ({ · with conditionalTypes := true }) (g .type)
      expect .colon
      within ({ · with conditionalTypes := true }) (g .type)

end DirectImports.Source.Grammar
