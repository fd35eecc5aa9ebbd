import DirectImports.Source.Grammar.Expression

/-!
# Declarations

Variables, functions, classes, and the declarations that only the language with types has. A
declaration yields what an `export` before it would export (`Declared`).
-/

namespace DirectImports.Source.Grammar

open DirectImports.Source.Parser

/-- What a declaration declares. -/
structure Declared where
  names : List String
  /-- why a name is missing -/
  nameless : List NamelessReason
  /-- every name that is bound, also inside patterns -/
  bound : List String

namespace Declared

/-- One name. -/
def one (name : String) : Declared := ⟨[name], [], [name]⟩

/-- Nothing that can be exported by name. -/
def missing (reason : NamelessReason) : Declared := ⟨[], [reason], []⟩

/-- A name, or the reason why there is none. -/
def ofName (name : Option String) (reason : NamelessReason) : Declared :=
  match name with
  | some name => one name
  | none => missing reason

/-- Two declarations in one. -/
def append (a b : Declared) : Declared :=
  ⟨a.names ++ b.names, a.nameless ++ b.nameless, a.bound ++ b.bound⟩

end Declared

/-! ## Variables -/

/-- One variable with its initializer. -/
structure Declarator where
  declared : Declared
  isPattern : Bool
  initialized : Bool

/-- One variable. -/
def declarator (g : Grammar) : Parser Declarator := do
  let isPattern := (← isAt .openBrace) || (← isAt .openBracket)
  let names ← g .pattern
  if ← typescript then
    if !isPattern && (← isAt .bang) && !(← onNewLine) then advance
    let _ ← eat .question
  g.typeAnnotation
  let initialized ← eat .assign
  if initialized then g.value
  let declared : Declared :=
    if isPattern then ⟨[], [.destructuring], names⟩ else ⟨names, [], names⟩
  return ⟨declared, isPattern, initialized⟩

/-- The variables after `var`, `let` or `const`. -/
def declarators (g : Grammar) : Parser (List Declarator) := do
  let first ← g.declarator
  let rest ← collecting do
    if ← eat .comma then return some (← g.declarator) else return none
  return first :: rest

/-- A pattern or constant must be initialized, unless it is only declared. -/
def requireInitializers (isConstant : Bool) (entries : List Declarator) : Parser Unit := do
  unless (← read).ambient do
    require (entries.all fun entry =>
      entry.initialized || !(entry.isPattern || isConstant))

/-- A variable statement from its keyword on. -/
def variableStatement (g : Grammar) (isConstant : Bool) : Parser Declared := do
  advance
  let entries ← g.declarators
  requireInitializers isConstant entries
  semicolon
  return entries.foldl (fun declared entry => declared.append entry.declared) ⟨[], [], []⟩

/-! ## Types, interfaces and enumerations -/

/-- `type A = …` -/
def typeAlias (g : Grammar) : Parser Declared := do
  expectWord "type"
  let name ← bindingName
  g.typeParameters
  expect .assign
  within ({ · with conditionalTypes := true }) (g .type)
  semicolon
  return .one name

/-- `interface A { … }` -/
def interfaceDeclaration (g : Grammar) : Parser Declared := do
  expectWord "interface"
  let name ← bindingName
  g.typeParameters
  if ← eatWord "extends" then g.typeReferences
  g.typeMembers
  return .one name

/-- A name in brackets, which must be a text without substitutions. -/
def bracketedName : Parser Unit := do
  expect .openBracket
  match ← token with
  | .string .. | .template true _ => advance
  | _ => failure
  expect .closeBracket

/-- One member of an enumeration. -/
def enumMember (g : Grammar) : Parser Unit := do
  match ← token with
  | .word .. | .string .. => advance
  | _ => bracketedName
  let _ ← g.initializer

/-- `enum A { … }` -/
def enumDeclaration (g : Grammar) : Parser Declared := do
  expectWord "enum"
  let name ← bindingName
  expect .openBrace
  let _ ← commaList .closeBrace g.enumMember
  return .one name

/-! ## Namespaces -/

/-- `namespace A.B { … }` or `module 'm' { … }` -/
def namespaceDeclaration (g : Grammar) : Parser Declared := do
  advance
  match ← token with
  | .string name _ =>
    advance
    if ← isAt .openBrace then g.block else semicolon
    return .one name
  | _ =>
    let name ← bindingName
    repeating do
      if ← eat .dot then
        let _ ← anyWord
        return true
      else return false
    g.block
    return .one name

/-- `global { … }` -/
def globalDeclaration (g : Grammar) : Parser Declared := do
  expectWord "global"
  g.block
  return .missing .unsupported

/-- `import A = …`, from the equals sign on. -/
def importAlias : Parser Unit := do
  expect .assign
  if (← atWord "require") && (← peek).token == .symbol .openParen then
    advance
    advance
    let _ ← stringLiteral
    expect .closeParen
  else
    dottedName do
      let _ ← bindingName
  semicolon

/-- `import A = …` after `export` or `declare`. -/
def importAliasDeclaration : Parser Declared := do
  expectWord "import"
  if (← atWord "type") && (← peek).token != .symbol .assign then advance
  let name ← bindingName
  importAlias
  return .one name

/-! ## Any declaration -/

/-- Words that may stand before a declaration; most of them do not belong there. -/
def declarationModifiers : List String :=
  ["declare", "abstract", "public", "private", "protected", "readonly", "accessor", "static",
   "override"]

/-- The current word stands before a declaration. -/
def atDeclarationModifier : Parser Bool := do
  match ← token with
  | .word name false =>
    let next ← peek
    return declarationModifiers.contains name && !next.lineBreak && (next.token matches .word ..)
  | _ => return false

/-- The words before a declaration. -/
def modifiers : Parser (List String) :=
  collecting do
    if ← atDeclarationModifier then return some (← anyWord) else return none

/-- A function declaration. -/
def functionDeclared (g : Grammar) (nameRequired : Bool) : Parser Declared := do
  return .ofName (← g.functionDeclaration nameRequired) .unnamedFunction

/-- A class declaration. -/
def classDeclared (g : Grammar) : Parser Declared := do
  return .ofName (← g.classRest) .unnamedClass

/-- A declaration of the language with types, from its keyword on. -/
def typedDeclaration (g : Grammar) (name : String) : Parser Declared := do
  match name with
  | "namespace" | "module" => g.namespaceDeclaration
  | "global" => g.globalDeclaration
  | "type" => g.typeAlias
  | "interface" => g.interfaceDeclaration
  | "enum" => g.enumDeclaration
  | "import" => importAliasDeclaration
  | _ => failure

/-- A declaration from its keyword on. -/
def declarationBody (g : Grammar) : Parser Declared := do
  match ← token with
  | .word "var" false | .word "let" false => g.variableStatement false
  | .word "const" false =>
    if (← typescript) && (← peek).token == .word "enum" false then
      advance
      g.enumDeclaration
    else g.variableStatement true
  | .word "function" false => g.functionDeclared true
  | .word "class" false => g.classDeclared
  | .word name false =>
    if ← atAsyncFunction then g.functionDeclared true
    else
      ensure (← typescript)
      g.typedDeclaration name
  | _ => failure

/-- A declaration with the words before it. -/
def declaration (g : Grammar) : Parser Declared := do
  let words ← if ← typescript then modifiers else pure []
  let isClass ← atWord "class"
  require (words.all fun word => word == "declare" || (word == "abstract" && isClass))
  within (fun context => { context with ambient := context.ambient || words.contains "declare" })
    g.declarationBody

/-- One word before a declaration: whether a declaration is found, or the search goes on. -/
def declarationStart : Parser (Option Bool) := do
  let current ← token
  advance
  let next ← lexeme
  let named := match next.token with
    | .word name _ => !isReserved name
    | _ => false
  match current with
  | .word name false =>
    if ["var", "let", "const", "function", "class", "enum"].contains name then return some true
    else if name == "interface" || name == "type" then return some (named && !next.lineBreak)
    else if name == "module" || name == "namespace" then
      return some (!next.lineBreak && (named || next.token matches .string ..))
    else if name == "global" then
      return some (next.token == .symbol .openBrace || named || next.token == .word "export" false)
    else if name == "async" || declarationModifiers.contains name then
      return if next.lineBreak then some false else none
    else if name == "import" then
      return some (next.token matches .word ..)
    else return some false
  | _ => return some false

/-- A declaration of the language with types begins here. -/
def atTypedDeclaration : Parser Bool := do
  let found ← look <| iterating (fun found => do
    if found = none then
      match ← declarationStart with
      | none => return some none
      | answer => return some answer
    else return none) (none : Option Bool)
  return found.join.getD false

end DirectImports.Source.Grammar
