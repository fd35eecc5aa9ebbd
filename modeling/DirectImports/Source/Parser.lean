import DirectImports.Source.Dialect
import DirectImports.Source.Token

/-!
# Parsers

A parser sees the current token and the text behind it, and either fails or goes on with a new
state. There are two kinds of fault: `failure` gives up, and whoever attempts something may then
try something else; `report` marks the text as faulty and goes on, so that no other reading of it
is tried. A text with a reported fault is rejected at the end.

Repetition is bounded by the length of the text, which the context carries.
-/

namespace DirectImports.Source

/-- What holds at a place of the text because of what surrounds it. -/
structure Context where
  dialect : Dialect
  /-- more than the number of tokens of the text -/
  fuel : Nat
  /-- inside a function body -/
  canReturn : Bool
  /-- inside a generator -/
  yieldIsKeyword : Bool
  /-- inside an asynchronous function, or at top level of a module -/
  awaitIsKeyword : Bool
  /-- `in` is an operator -/
  allowIn : Bool
  /-- inside something that only declares -/
  ambient : Bool
  /-- `extends` begins a conditional type -/
  conditionalTypes : Bool
  /-- between `?` and `:`, where a colon after parameters is ambiguous -/
  betweenBranches : Bool
  /-- inside a decorator, where brackets are no subscript -/
  inDecorator : Bool

/-- Where a parser stands. -/
structure State where
  lexeme : Lexeme
  /-- offset after the last character of the token before -/
  lastStop : Nat
  /-- a fault has been reported -/
  faulty : Bool

/-- A parser. -/
abbrev Parser := ReaderT Context (StateT State Option)

namespace Parser

/-! ## Looking at the current token -/

/-- The current token with its place. -/
def lexeme : Parser Lexeme := do
  return (← get).lexeme

/-- The current token. -/
def token : Parser Token := do
  return (← get).lexeme.token

/-- The token after the current one. -/
def peek : Parser Lexeme := do
  let current ← lexeme
  return Lexeme.next current.stop current.rest

/-- The current token is on another line than the one before. -/
def onNewLine : Parser Bool := do
  return (← get).lexeme.lineBreak

/-- The current token is a punctuator. -/
def isAt (symbol : Symbol) : Parser Bool := do
  return (← token) == .symbol symbol

/-- The current token is a word written without escapes. -/
def atWord (name : String) : Parser Bool := do
  return (← token) == .word name false

/-- The language has types. -/
def typescript : Parser Bool := do
  return (← read).dialect.typescript

/-! ## Moving on -/

/-- Replaces the current token by another reading of its place. -/
def reread (f : Lexeme → Lexeme) : Parser Unit :=
  modify fun state => { state with lexeme := f state.lexeme }

/-- Goes on with a token read in another way than usual. -/
def advanceBy (next : Nat → List Char → Lexeme) : Parser Unit :=
  modify fun state =>
    { state with
      lexeme := next state.lexeme.stop state.lexeme.rest, lastStop := state.lexeme.stop }

/-- Goes on with the next token. -/
def advance : Parser Unit :=
  advanceBy Lexeme.next

/-- Marks the text as faulty and goes on. -/
def report : Parser Unit :=
  modify fun state => { state with faulty := true }

/-- Reports a fault unless a condition holds. -/
def require (condition : Bool) : Parser Unit :=
  if condition then pure () else report

/-- Gives up unless a condition holds. -/
def ensure (condition : Bool) : Parser Unit :=
  if condition then pure () else failure

/-- Takes a punctuator if it is there. -/
def eat (symbol : Symbol) : Parser Bool := do
  if ← isAt symbol then
    advance
    return true
  else return false

/-- Takes a punctuator that must be there. -/
def expect (symbol : Symbol) : Parser Unit := do
  if ← isAt symbol then advance else failure

/-- Takes a word if it is there. -/
def eatWord (name : String) : Parser Bool := do
  if ← atWord name then
    advance
    return true
  else return false

/-- Takes a word that must be there. -/
def expectWord (name : String) : Parser Unit := do
  if ← atWord name then advance else failure

/-- The end of a statement: a semicolon, or a place where one may be left out. -/
def semicolon : Parser Unit := do
  let current ← lexeme
  if current.token == .symbol .semicolon then advance
  else if current.token == .symbol .closeBrace || current.token == .eof || current.lineBreak then
    pure ()
  else failure

/-! ## Trying and repeating -/

/-- Runs a parser without moving; `none` if it gives up. -/
def look (p : Parser α) : Parser (Option α) := fun context state =>
  match p context state with
  | some (result, _) => some (some result, state)
  | none => some (none, state)

/-- Asks a question about what follows without moving. -/
def looksAt (p : Parser Bool) : Parser Bool := do
  return (← look p).getD false

/-- Runs a parser, and stays where it is if that gives up. -/
def attempt (p : Parser α) : Parser (Option α) := fun context state =>
  match p context state with
  | some (result, state') => some (some result, state')
  | none => some (none, state)

/-- Repeats a step while it answers yes, at most `fuel` times. -/
def repeatFor (step : Parser Bool) : Nat → Parser Unit
  | 0 => failure
  | fuel + 1 => do
    if ← step then repeatFor step fuel else pure ()

/-- Repeats a step while it answers yes. -/
def repeating (step : Parser Bool) : Parser Unit := do
  repeatFor step (← read).fuel

/-- Repeats a step on a value until it leaves the value alone. -/
def iterateFor (step : α → Parser (Option α)) : Nat → α → Parser α
  | 0, _ => failure
  | fuel + 1, value => do
    match ← step value with
    | some next => iterateFor step fuel next
    | none => return value

/-- Repeats a step on a value until it answers `none`. -/
def iterating (step : α → Parser (Option α)) (value : α) : Parser α := do
  iterateFor step (← read).fuel value

/-- The results of a step until it answers `none`, at most `fuel` of them. -/
def collectFor (step : Parser (Option α)) : Nat → Parser (List α)
  | 0 => failure
  | fuel + 1 => do
    match ← step with
    | some item => return item :: (← collectFor step fuel)
    | none => return []

/-- The results of a step until it answers `none`. -/
def collecting (step : Parser (Option α)) : Parser (List α) := do
  collectFor step (← read).fuel

/-- Items up to a closing punctuator, which is taken, with commas between them and perhaps one at
the end. -/
def commaList (closing : Symbol) (item : Parser α) : Parser (List α) := do
  let items ← collecting do
    if ← isAt closing then return none
    else
      let value ← item
      if ← isAt closing then pure () else expect .comma
      return some value
  expect closing
  return items

/-! ## Context -/

/-- Runs a parser in a changed context. -/
def within (change : Context → Context) (p : Parser α) : Parser α := fun context state =>
  p (change context) state

/-! ## Words -/

/-- Words that are never names of bindings. -/
def reservedWords : List String :=
  ["break", "case", "catch", "class", "const", "continue", "debugger", "default", "delete", "do",
   "else", "enum", "export", "extends", "false", "finally", "for", "function", "if", "import",
   "in", "instanceof", "new", "null", "return", "super", "switch", "this", "throw", "true", "try",
   "typeof", "var", "void", "while", "with"]

/-- Words that are no names of bindings in strict code, besides the reserved ones. -/
def strictWords : List String :=
  ["implements", "interface", "let", "package", "private", "protected", "public", "static"]

/-- The word names no binding. -/
def isReserved (name : String) : Bool := reservedWords.contains name

/-- The current token is a word that can name a binding. -/
def atBindingName : Parser Bool := do
  match ← token with
  | .word name _ => return !isReserved name
  | _ => return false

/-- The name of a binding. -/
def bindingName : Parser String := do
  match ← token with
  | .word name _ =>
    ensure !isReserved name
    let context ← read
    require !(name == "await" && context.awaitIsKeyword)
    require !(name == "yield" && context.yieldIsKeyword)
    advance
    return name
  | _ => failure

/-- Any word, keywords included. -/
def anyWord : Parser String := do
  match ← token with
  | .word name _ =>
    advance
    return name
  | _ => failure

/-- A string literal. -/
def stringLiteral : Parser String := do
  match ← token with
  | .string value _ =>
    advance
    return value
  | _ => failure

end Parser

end DirectImports.Source
