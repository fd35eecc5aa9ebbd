import DirectImports.Source.Grammar.Type

/-!
# Functions and classes

A function of a declaration or method may lack its body where the language has types: it is an
overload or is implemented elsewhere. A class may lack its name.
-/

namespace DirectImports.Source.Grammar

open DirectImports.Source.Parser

/-! ## Functions -/

/-- Whether a function must have a body. -/
inductive Body
  | required
  | optional

/-- A function from its type parameters on. -/
def functionRest (g : Grammar) (isAsync isGenerator : Bool) (body : Body) : Parser Parameters :=
  within (functionContext isAsync isGenerator) do
    g.typeParameters
    let parameters ← g.parameters
    g.returnType
    match body with
    | .required => g.functionBody
    | .optional =>
      if (← isAt .openBrace) || !(← typescript) then g.functionBody else semicolon
    return parameters

/-- A getter or setter from its parameters on. A getter has none and a setter has one, which
does not take the rest. -/
def accessorRest (g : Grammar) (isSetter : Bool) (body : Body) : Parser Unit := do
  let parameters ← g.functionRest false false body
  require (parameters.kinds == if isSetter then [.plain] else [])

/-- A function expression from `function` on. -/
def functionExpression (g : Grammar) (isAsync : Bool) : Parser Unit := do
  expectWord "function"
  let isGenerator ← eat .star
  within (functionContext isAsync isGenerator) do
    if ← atBindingName then
      let _ ← bindingName
  let _ ← g.functionRest isAsync isGenerator .required

/-- `async` is followed by `function` on its line. -/
def atAsyncFunction : Parser Bool := do
  if ← atWord "async" then
    let next ← peek
    return next.token == .word "function" false && !next.lineBreak
  else return false

/-- A function declaration from `async` or `function` on; only a default export may lack the
name. -/
def functionDeclaration (g : Grammar) (nameRequired : Bool) : Parser (Option String) := do
  let isAsync ← eatWord "async"
  expectWord "function"
  let isGenerator ← eat .star
  let name ←
    if ← atBindingName then
      pure (some (← bindingName))
    else
      ensure !nameRequired
      pure none
  let _ ← g.functionRest isAsync isGenerator .optional
  return name

/-! ## Class members -/

/-- Words that set who may use a member. -/
def accessModifiers : List String := ["public", "private", "protected"]

/-- Words before a member of a class. -/
def classModifiers : List String :=
  accessModifiers ++ ["static", "abstract", "override", "readonly", "declare", "accessor"]

/-- Words that stand before other things and never before a member of a class. -/
def foreignModifiers : List String := ["export", "const", "in", "out"]

/-- A modifier may follow others: no word twice, only one that sets who may use the member, and
these words in order. -/
def modifierFits (before : List String) (name : String) : Bool :=
  let later :=
    if accessModifiers.contains name then
      accessModifiers ++ ["static", "abstract", "override", "readonly", "accessor"]
    else if name == "static" then ["abstract", "override", "readonly", "accessor"]
    else if name == "override" then ["readonly", "accessor"]
    else []
  classModifiers.contains name && !before.contains name && !before.any later.contains

/-- The current word is a modifier of the member that follows. -/
def atClassModifier : Parser Bool := do
  match ← token with
  | .word name false =>
    let next ← peek
    let begins := isPropertyStart next.token || next.token == .symbol .star
    if name == "static" then return begins || next.token == .symbol .openBrace
    else if name == "accessor" then return begins && !next.lineBreak
    else
      return (← typescript) && (classModifiers ++ foreignModifiers).contains name && begins
        && !next.lineBreak
  | _ => return false

/-- The modifiers of a member. -/
def memberModifiers : Parser (List String) :=
  iterating (fun before => do
    if ← atClassModifier then
      let name ← anyWord
      require (modifierFits before name)
      return some (before ++ [name])
    else return none) []

/-- Whether a method must have a body. -/
def methodBody : Parser Body := do
  return if ← typescript then .optional else .required

/-- The name of a member; a name with a mark is open to the class alone, whoever may use it. -/
def memberKey (g : Grammar) (modifiers : List String) : Parser PropertyName := do
  match ← token with
  | .privateName name =>
    advance
    require (!modifiers.any accessModifiers.contains && name != "constructor")
    return .hidden
  | _ => g.propertyName

/-- Only an ordinary method may be called `constructor`, and nothing static `prototype`. -/
def specialNameFits (modifiers : List String) (name : PropertyName) (isField isPlain : Bool) :
    Bool :=
  let isStatic := modifiers.contains "static"
  !(name.isNamed "constructor" && ((isField || !isPlain) && (isField || !isStatic)))
    && !(name.isNamed "prototype" && isStatic)

/-- The parameters and body of a method. A constructor has no type parameters and no `this`. -/
def method (g : Grammar) (modifiers : List String) (name : PropertyName)
    (isAsync isGenerator : Bool) : Parser Unit := do
  require (specialNameFits modifiers name false (!isAsync && !isGenerator))
  let isConstructor := name.isNamed "constructor" && !modifiers.contains "static"
  if isConstructor then require !(← isAt .less)
  let parameters ← g.functionRest isAsync isGenerator (← methodBody)
  if isConstructor then require !parameters.receiver

/-- A getter or setter from its name on. -/
def accessorMember (g : Grammar) (modifiers : List String) (isSetter : Bool) : Parser Unit := do
  let name ← g.memberKey modifiers
  require (specialNameFits modifiers name false false)
  g.accessorRest isSetter (← methodBody)

/-- A field from after its name on. -/
def field (g : Grammar) (modifiers : List String) (name : PropertyName) (optional : Bool) :
    Parser Unit := do
  require (specialNameFits modifiers name true false)
  if (← typescript) && (← eat .bang) then require !optional
  require !(optional && modifiers.contains "accessor")
  g.typeAnnotation
  let _ ← within (functionContext false false) g.initializer
  semicolon

/-- A field or method from its name on. -/
def namedMember (g : Grammar) (modifiers : List String) (isAsync isGenerator : Bool) :
    Parser Unit := do
  let name ← g.memberKey modifiers
  let optional ← if ← typescript then eat .question else pure false
  if (← isAt .openParen) || (← isAt .less) then g.method modifiers name isAsync isGenerator
  else
    ensure (!isAsync && !isGenerator)
    g.field modifiers name optional

/-- One member of a class. -/
def classMember (g : Grammar) : Parser Unit := do
  if ← eat .semicolon then pure ()
  else
    let _ ← g.decorators
    let modifiers ← memberModifiers
    let next ← peek
    let nextBegins := isPropertyStart next.token
    if ← isAt .openBrace then
      within (fun context => { functionContext false false context with canReturn := false })
        g.block
    else if (← typescript) && (← atIndexSignature) then
      g.indexSignature
      memberEnd
    else if ((← atWord "get") || (← atWord "set")) && nextBegins then
      let isSetter ← atWord "set"
      advance
      g.accessorMember modifiers isSetter
    else if (← atWord "async") && !next.lineBreak
        && (nextBegins || next.token == .symbol .star) then
      advance
      let isGenerator ← eat .star
      g.namedMember modifiers true isGenerator
    else if ← eat .star then g.namedMember modifiers false true
    else g.namedMember modifiers false false

/-! ## Classes -/

/-- Types with commas between them. -/
def typeReferences (g : Grammar) : Parser Unit := do
  g.typeReference
  repeating do
    if ← eat .comma then
      g.typeReference
      return true
    else return false

/-- What a class extends, and then what it implements. -/
def heritage (g : Grammar) : Parser Unit := do
  if ← eatWord "extends" then
    let _ ← settle (g .leftHand)
    if ← typescript then g.optionalTypeArguments
  if (← typescript) && (← atWord "implements") then
    advance
    g.typeReferences

/-- A class from `class` on, and its name. -/
def classRest (g : Grammar) : Parser (Option String) := do
  expectWord "class"
  let name ←
    if (← atBindingName) && !(← atWord "implements") then
      pure (some (← bindingName))
    else pure none
  g.typeParameters
  g.heritage
  expect .openBrace
  repeating do
    if ← isAt .closeBrace then return false
    else
      g.classMember
      return true
  expect .closeBrace
  return name

end DirectImports.Source.Grammar
