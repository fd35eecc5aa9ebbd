import DirectImports.Source.Grammar.Basic

/-!
# Patterns, parameters and bodies

Binding patterns yield the names they bind. Parameters and function bodies stand here too, since
types, classes and expressions all need them.
-/

namespace DirectImports.Source.Grammar

open DirectImports.Source.Parser

/-! ## Property names -/

/-- The name of a property. -/
inductive PropertyName
  | word (name : String)
  | string (value : String)
  | number
  | computed
  /-- a name with a mark before it -/
  | hidden
deriving DecidableEq, Repr

/-- The property has this name, as a word or as a string. -/
def PropertyName.isNamed (name : PropertyName) (text : String) : Bool :=
  name == .word text || name == .string text

/-- The current token can be a property name. -/
def isPropertyStart : Token → Bool
  | .word .. => true
  | .string .. => true
  | .number => true
  | .bigint => true
  | .privateName _ => true
  | .symbol .openBracket => true
  | _ => false

/-- A property name outside a class, where no name has a mark. -/
def propertyName (g : Grammar) : Parser PropertyName := do
  match ← token with
  | .word name _ =>
    advance
    return .word name
  | .string value _ =>
    advance
    return .string value
  | .number | .bigint =>
    advance
    return .number
  | .symbol .openBracket =>
    advance
    g.valueWithIn
    expect .closeBracket
    return .computed
  | _ => failure

/-! ## Annotations -/

/-- A type after a colon, if the language has types and there is one. -/
def typeAnnotation (g : Grammar) : Parser Unit := do
  if (← typescript) && (← isAt .colon) then
    advance
    within ({ · with conditionalTypes := true }) (g .type)
  else pure ()

/-- A value after an equals sign, if there is one. -/
def initializer (g : Grammar) : Parser Bool := do
  if ← eat .assign then
    g.valueWithIn
    return true
  else return false

/-- Decorators before a declaration. -/
def decorators (g : Grammar) : Parser Bool := do
  if ← isAt .atSign then
    repeating do
      if ← eat .atSign then
        let _ ← within ({ · with inDecorator := true, allowIn := true }) (settle (g .leftHand))
        return true
      else return false
    return true
  else return false

/-! ## Binding patterns -/

/-- A pattern with its default. -/
def patternWithDefault (g : Grammar) : Parser (List String) := do
  let names ← g .pattern
  let _ ← g.initializer
  return names

/-- A rest element, which must be the last one. -/
def restElement (g : Grammar) (closing : Symbol) : Parser (List String) := do
  expect .ellipsis
  let names ← g .pattern
  require (← isAt closing)
  return names

/-- The rest of the properties, which go into a name. -/
def restProperties (g : Grammar) : Parser (List String) := do
  let next := (← peek).token
  require (next != .symbol .openBrace && next != .symbol .openBracket)
  g.restElement .closeBrace

/-- One property of an object pattern. -/
def patternProperty (g : Grammar) : Parser (List String) := do
  if ← isAt .ellipsis then g.restProperties
  else if (← atBindingName) && (← peek).token != .symbol .colon then
    let name ← bindingName
    let _ ← g.initializer
    return [name]
  else
    let _ ← g.propertyName
    expect .colon
    g.patternWithDefault

/-- One element of an array pattern, or the comma after a hole. -/
def patternElement (g : Grammar) : Parser (Option (List String)) := do
  if ← isAt .closeBracket then return none
  else if ← eat .comma then return some []
  else
    let names ←
      if ← isAt .ellipsis then g.restElement .closeBracket else g.patternWithDefault
    if ← isAt .closeBracket then pure () else expect .comma
    return some names

/-- A binding pattern and the names it binds. -/
def bindingPattern (g : Grammar) : Parser (List String) := do
  if ← eat .openBrace then
    return (← commaList .closeBrace g.patternProperty).flatten
  else if ← eat .openBracket then
    let names ← collecting g.patternElement
    expect .closeBracket
    return names.flatten
  else return [← bindingName]

/-! ## Parameters -/

/-- Words before a parameter that make it a property. -/
def parameterModifiers : List String :=
  ["public", "private", "protected", "readonly", "override"]

/-- The current token is a modifier of the parameter that follows it. -/
def atParameterModifier : Parser Bool := do
  match ← token with
  | .word name false =>
    if (← typescript) && parameterModifiers.contains name then
      match (← peek).token with
      | .word .. => return true
      | .symbol .openBrace => return true
      | .symbol .openBracket => return true
      | _ => return false
    else return false
  | _ => return false

/-- What kind of parameter one is. -/
inductive ParameterKind
  | plain
  /-- takes all that is left -/
  | rest
deriving DecidableEq, Repr

/-- What is kept of a list of parameters. -/
structure Parameters where
  /-- `this` stands before the others -/
  receiver : Bool
  kinds : List ParameterKind
deriving DecidableEq, Repr

/-- One parameter. -/
def parameter (g : Grammar) : Parser ParameterKind := do
  let _ ← g.decorators
  repeating do
    if ← atParameterModifier then
      advance
      return true
    else return false
  if ← eat .ellipsis then
    let _ ← g .pattern
    g.typeAnnotation
    ensure (← isAt .closeParen)
    return .rest
  else
    let _ ← g .pattern
    if ← typescript then
      let _ ← eat .question
    g.typeAnnotation
    let _ ← g.initializer
    return .plain

/-- `this` before the parameters, if it is there. -/
def receiver (g : Grammar) : Parser Bool := do
  if (← typescript) && (← atWord "this") then
    advance
    g.typeAnnotation
    if ← isAt .closeParen then pure () else expect .comma
    return true
  else return false

/-- A list of parameters in parentheses. -/
def parameters (g : Grammar) : Parser Parameters := do
  expect .openParen
  let receiver ← g.receiver
  return ⟨receiver, ← commaList .closeParen g.parameter⟩

/-! ## Blocks and bodies -/

/-- Statements in braces. -/
def block (g : Grammar) : Parser Unit := do
  expect .openBrace
  repeating do
    if ← isAt .closeBrace then return false
    else
      let _ ← g .statement
      return true
  expect .closeBrace

/-- The context of a function's parameters and body. -/
def functionContext (isAsync isGenerator : Bool) (context : Context) : Context :=
  { context with
    awaitIsKeyword := isAsync, yieldIsKeyword := isGenerator, allowIn := true,
    betweenBranches := false, inDecorator := false }

/-- The body of a function. -/
def functionBody (g : Grammar) : Parser Unit :=
  within ({ · with canReturn := true }) g.block

end DirectImports.Source.Grammar
