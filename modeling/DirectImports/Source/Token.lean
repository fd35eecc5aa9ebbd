import DirectImports.Source.Literal
import DirectImports.Source.Symbol

/-!
# Tokens

`Lexeme.next` reads one token with the blanks and comments before it. A keyword is a word like
any other; the grammar decides what a word means where it stands.

Some tokens depend on what the grammar expects, and are read again from where the current one
begins or ends: a slash may begin a regular expression (`Lexeme.asRegex`), a brace may end a
substitution (`Lexeme.asTemplateRest`), `>` may be the beginning of a longer operator
(`Lexeme.asOperator`), and inside JSX other rules hold altogether.
-/

namespace DirectImports.Source

/-- A token. -/
inductive Token
  | eof
  /-- a text that begins no token, or one that does not end -/
  | invalid
  | word (name : String) (escaped : Bool)
  | privateName (name : String)
  | string (value : String) (wellFormed : Bool)
  | number
  | bigint
  /-- a piece of a template: whether it is the last one, and whether its escapes are well-formed -/
  | template (last wellFormed : Bool)
  | regex
  | jsxText
  | symbol (symbol : Symbol)
deriving DecidableEq, Repr

/-- A token with its place in the text. -/
structure Lexeme where
  token : Token
  /-- a line ends between the token before and this one -/
  lineBreak : Bool
  /-- offset of the first character -/
  start : Nat
  /-- offset after the last character -/
  stop : Nat
  /-- the text from the token on -/
  here : List Char
  /-- the text after the token -/
  rest : List Char
deriving Repr

/-! ## Blanks and comments -/

/-- Where the text before a token is being skipped. -/
inductive Trivia
  | blank
  | lineComment
  | blockComment

/-- Skips blanks and comments: how many characters, whether a line ended, and the rest; `none`
for a comment that does not end. -/
def skipTrivia : Trivia → Nat → Bool → List Char → Option (Nat × Bool × List Char)
  | .blank, n, lineBreak, '/' :: '/' :: rest => skipTrivia .lineComment (n + 2) lineBreak rest
  | .blank, n, lineBreak, '/' :: '*' :: rest => skipTrivia .blockComment (n + 2) lineBreak rest
  | .blank, n, lineBreak, c :: rest =>
    if isLineBreak c then skipTrivia .blank (n + 1) true rest
    else if isBlank c then skipTrivia .blank (n + 1) lineBreak rest
    else some (n, lineBreak, c :: rest)
  | .lineComment, n, lineBreak, c :: rest =>
    if isLineBreak c then skipTrivia .blank (n + 1) true rest
    else skipTrivia .lineComment (n + 1) lineBreak rest
  | .blockComment, n, lineBreak, '*' :: '/' :: rest => skipTrivia .blank (n + 2) lineBreak rest
  | .blockComment, n, lineBreak, c :: rest =>
    skipTrivia .blockComment (n + 1) (lineBreak || isLineBreak c) rest
  | .blockComment, _, _, [] => none
  | _, n, lineBreak, [] => some (n, lineBreak, [])

/-! ## Single tokens -/

/-- The token at the beginning of a text, its length and what follows. -/
def scanToken (cs : List Char) : Option (Scanned Token) :=
  match cs with
  | [] => some (.eof, 0, [])
  | c :: rest =>
    if c = '"' ∨ c = '\'' then
      (scanString c rest).map fun ((value, wellFormed), n, tail) =>
        (.string value wellFormed, n + 1, tail)
    else if c = '\x60' then
      (scanTemplate rest).map fun ((last, wellFormed), n, tail) =>
        (.template last wellFormed, n + 1, tail)
    else if c = '#' then
      (scanWord rest).map fun ((name, _), n, tail) => (.privateName name, n + 1, tail)
    else if Text.isAsciiDigit c || (c == '.' && rest.head?.any Text.isAsciiDigit) then
      (scanNumber cs).map fun (big, n, tail) => (if big then .bigint else .number, n, tail)
    else if Text.isIdentifierStart c || c == '\\' then
      (scanWord cs).map fun ((name, escaped), n, tail) => (.word name escaped, n, tail)
    else (Symbol.scan cs).map fun (symbol, n, tail) => (.symbol symbol, n, tail)

namespace Lexeme

/-- A lexeme that begins at an offset. -/
def ofScan (lineBreak : Bool) (start : Nat) (here : List Char) : Option (Scanned Token) → Lexeme
  | some (token, n, rest) => ⟨token, lineBreak, start, start + n, here, rest⟩
  | none => ⟨.invalid, lineBreak, start, start, here, here⟩

/-- The next token of a text that begins at an offset. -/
def next (offset : Nat) (cs : List Char) : Lexeme :=
  match skipTrivia .blank 0 false cs with
  | none => ⟨.invalid, false, offset, offset, cs, cs⟩
  | some (n, lineBreak, here) => ofScan lineBreak (offset + n) here (scanToken here)

/-- The same place read as the longest operator beginning with `>`. -/
def asOperator (lexeme : Lexeme) : Lexeme :=
  ofScan lexeme.lineBreak lexeme.start lexeme.here
    ((Symbol.scanGreater lexeme.here).map fun (symbol, n, rest) => (.symbol symbol, n, rest))

/-- The same place read as a single character. -/
def asSingle (symbol : Symbol) (lexeme : Lexeme) : Lexeme :=
  ofScan lexeme.lineBreak lexeme.start lexeme.here (some (.symbol symbol, 1, lexeme.here.drop 1))

/-- The same place read as a regular expression. -/
def asRegex (lexeme : Lexeme) : Lexeme :=
  ofScan lexeme.lineBreak lexeme.start lexeme.here
    ((scanRegex (lexeme.here.drop 1)).map fun (_, n, rest) => (.regex, n + 1, rest))

/-- The brace that ends a substitution together with the piece of the template after it. -/
def asTemplateRest (lexeme : Lexeme) : Lexeme :=
  ofScan lexeme.lineBreak lexeme.start lexeme.here
    ((scanTemplate (lexeme.here.drop 1)).map fun ((last, wellFormed), n, rest) =>
      (.template last wellFormed, n + 1, rest))

/-! ## Inside JSX -/

/-- A character that JSX text may not hold. -/
def isForbiddenInText (c : Char) : Bool := c == '>' || c == '\x7d'

/-- What follows a JSX tag or child: text up to the next tag or brace, or that tag or brace. -/
def nextChild (offset : Nat) (cs : List Char) : Lexeme :=
  let text := cs.takeWhile fun c => c != '<' && c != '\x7b'
  match cs with
  | [] => ⟨.eof, false, offset, offset, [], []⟩
  | '<' :: rest => ⟨.symbol .less, false, offset, offset + 1, cs, rest⟩
  | '\x7b' :: rest => ⟨.symbol .openBrace, false, offset, offset + 1, cs, rest⟩
  | _ =>
    if text.any isForbiddenInText then ⟨.invalid, false, offset, offset, cs, cs⟩
    else ⟨.jsxText, false, offset, offset + text.length, cs, cs.drop text.length⟩

/-- A JSX name goes on through dashes. -/
def asJsxName (lexeme : Lexeme) : Lexeme :=
  match lexeme.token with
  | .word _ false =>
    let dashed := lexeme.rest.takeWhile fun c => c == '-' || Text.isIdentifierPart c
    { lexeme with
      stop := lexeme.stop + dashed.length, rest := lexeme.rest.drop dashed.length }
  | _ => lexeme

/-- The value of a JSX attribute: in a string, nothing but the quote is special. -/
def nextAttributeValue (offset : Nat) (cs : List Char) : Lexeme :=
  match skipTrivia .blank 0 false cs with
  | some (n, lineBreak, quote :: rest) =>
    if quote = '"' ∨ quote = '\'' then
      let text := rest.takeWhile (· != quote)
      match rest.drop text.length with
      | _ :: tail =>
        ⟨.string (String.ofList text) true, lineBreak, offset + n, offset + n + text.length + 2,
          quote :: rest, tail⟩
      | [] => ⟨.invalid, lineBreak, offset, offset, cs, cs⟩
    else next offset cs
  | _ => next offset cs

end Lexeme

end DirectImports.Source
