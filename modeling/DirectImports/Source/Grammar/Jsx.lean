import DirectImports.Source.Grammar.Type

/-!
# JSX

Elements, fragments, attributes and children. The names of an opening and a closing tag must
agree. What follows the last bracket of an element depends on where the element stands: inside
another one it is text again.
-/

namespace DirectImports.Source.Grammar

open DirectImports.Source.Parser

/-- Goes on after the last bracket of an element. -/
def advanceAfterTag (inside : Bool) : Parser Unit :=
  if inside then advanceBy Lexeme.nextChild else advance

/-- One word of a JSX name, dashes included. -/
def jsxWord : Parser String := do
  reread Lexeme.asJsxName
  let current ← lexeme
  match current.token with
  | .word .. =>
    advance
    return String.ofList (current.here.take (current.stop - current.start))
  | _ => failure

/-- The name of an element: words with dots, or two with a colon. -/
def jsxElementName : Parser String := do
  let first ← jsxWord
  if ← eat .colon then return first ++ ":" ++ (← jsxWord)
  else
    iterating (fun name => do
      if ← eat .dot then return some (name ++ "." ++ (← jsxWord)) else return none) first

/-- An expression in braces, from after the opening one; the closing brace stays. -/
def jsxExpression (g : Grammar) : Parser Unit := do
  if ← isAt .closeBrace then pure ()
  else
    let _ ← eat .ellipsis
    g.valueWithIn

/-- The value of an attribute. -/
def jsxAttributeValue (g : Grammar) : Parser Unit := do
  match ← token with
  | .string .. => advance
  | .symbol .openBrace =>
    advance
    ensure !(← isAt .closeBrace)
    g.valueWithIn
    expect .closeBrace
  | .symbol .less => g (.jsx false)
  | _ => failure

/-- One attribute. -/
def jsxAttribute (g : Grammar) : Parser Unit := do
  if ← eat .openBrace then
    expect .ellipsis
    g.valueWithIn
    expect .closeBrace
  else
    let _ ← jsxWord
    if ← eat .colon then
      let _ ← jsxWord
    if ← isAt .assign then
      advanceBy Lexeme.nextAttributeValue
      g.jsxAttributeValue

/-- The children of an element up to its closing tag, which is not taken. -/
def jsxChildren (g : Grammar) : Parser Unit := do
  repeating do
    match ← token with
    | .jsxText =>
      advanceBy Lexeme.nextChild
      return true
    | .symbol .openBrace =>
      advance
      g.jsxExpression
      ensure (← isAt .closeBrace)
      advanceBy Lexeme.nextChild
      return true
    | .symbol .less =>
      if (← peek).token == .symbol .slash then return false
      else
        g (.jsx true)
        return true
    | _ => failure

/-- A closing tag with the given name, empty for a fragment. -/
def jsxClosing (inside : Bool) (name : String) : Parser Unit := do
  expect .less
  expect .slash
  if name ≠ "" then
    let closing ← jsxElementName
    require (closing == name)
  ensure (← isAt .greater)
  advanceAfterTag inside

/-- An element or fragment. -/
def jsxElement (g : Grammar) (inside : Bool) : Parser Unit := do
  expect .less
  if ← isAt .greater then
    advanceBy Lexeme.nextChild
    g.jsxChildren
    jsxClosing inside ""
  else
    let name ← jsxElementName
    if (← typescript) && (← isAt .less) then g.typeArguments
    repeating do
      if (← isAt .slash) || (← isAt .greater) then return false
      else
        g.jsxAttribute
        return true
    if ← eat .slash then
      ensure (← isAt .greater)
      advanceAfterTag inside
    else
      advanceBy Lexeme.nextChild
      g.jsxChildren
      jsxClosing inside name

end DirectImports.Source.Grammar
