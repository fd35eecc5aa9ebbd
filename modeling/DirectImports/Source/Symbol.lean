/-!
# Punctuation

The punctuators of the source language. A text that begins with several of them is read as the
longest. `>` is the exception: it always stands alone, since it closes a list of type arguments;
where an expression goes on, `Symbol.scanGreater` reads the longer operators.
-/

namespace DirectImports.Source

/-- A punctuator. -/
inductive Symbol
  | openBrace | closeBrace | openParen | closeParen | openBracket | closeBracket
  | semicolon | comma | dot | ellipsis | question | optionalDot | coalesce | coalesceAssign
  | colon | assign | equal | strictEqual | arrow | bang | notEqual | strictNotEqual
  | plus | increment | plusAssign | minus | decrement | minusAssign
  | star | power | starAssign | powerAssign | slash | slashAssign | percent | percentAssign
  | less | lessEqual | shiftLeft | shiftLeftAssign
  | greater | greaterEqual | shiftRight | shiftRightAssign | shiftRightZero | shiftRightZeroAssign
  | amp | ampAmp | ampAssign | ampAmpAssign | pipe | pipePipe | pipeAssign | pipePipeAssign
  | caret | caretAssign | tilde | atSign
deriving DecidableEq, Repr

namespace Symbol

/-- The punctuators other than those that begin with `>`, longer ones before their beginnings. -/
def table : List (List Char × Symbol) :=
  [(['.', '.', '.'], .ellipsis), (['?', '?', '='], .coalesceAssign),
   (['=', '=', '='], .strictEqual), (['!', '=', '='], .strictNotEqual),
   (['*', '*', '='], .powerAssign), (['<', '<', '='], .shiftLeftAssign),
   (['&', '&', '='], .ampAmpAssign), (['|', '|', '='], .pipePipeAssign),
   (['?', '.'], .optionalDot), (['?', '?'], .coalesce), (['=', '='], .equal),
   (['=', '>'], .arrow), (['!', '='], .notEqual), (['+', '+'], .increment),
   (['+', '='], .plusAssign), (['-', '-'], .decrement), (['-', '='], .minusAssign),
   (['*', '*'], .power), (['*', '='], .starAssign), (['/', '='], .slashAssign),
   (['%', '='], .percentAssign), (['<', '='], .lessEqual), (['<', '<'], .shiftLeft),
   (['&', '&'], .ampAmp), (['&', '='], .ampAssign), (['|', '|'], .pipePipe),
   (['|', '='], .pipeAssign), (['^', '='], .caretAssign),
   (['\x7b'], .openBrace), (['\x7d'], .closeBrace), (['('], .openParen), ([')'], .closeParen),
   (['['], .openBracket), ([']'], .closeBracket), ([';'], .semicolon), ([','], .comma),
   (['.'], .dot), (['?'], .question), ([':'], .colon), (['='], .assign), (['!'], .bang),
   (['+'], .plus), (['-'], .minus), (['*'], .star), (['/'], .slash), (['%'], .percent),
   (['<'], .less), (['>'], .greater), (['&'], .amp), (['|'], .pipe), (['^'], .caret),
   (['~'], .tilde), (['@'], .atSign)]

/-- The punctuators that begin with `>`, longer ones first. -/
def greaterTable : List (List Char × Symbol) :=
  [(['>', '>', '>', '='], .shiftRightZeroAssign), (['>', '>', '>'], .shiftRightZero),
   (['>', '>', '='], .shiftRightAssign), (['>', '>'], .shiftRight), (['>', '='], .greaterEqual),
   (['>'], .greater)]

/-- The first entry of a table that a text begins with. -/
def scanIn (table : List (List Char × Symbol)) (cs : List Char) :
    Option (Symbol × Nat × List Char) :=
  (table.find? fun entry => entry.1.isPrefixOf cs).map fun entry =>
    (entry.2, entry.1.length, cs.drop entry.1.length)

/-- The punctuator at the beginning of a text, its length and what follows. A digit after `?.`
makes it a conditional. -/
def scan (cs : List Char) : Option (Symbol × Nat × List Char) :=
  match scanIn table cs with
  | some (.optionalDot, n, rest) =>
    if rest.head?.any Char.isDigit then some (.question, 1, cs.drop 1)
    else some (.optionalDot, n, rest)
  | found => found

/-- The operator beginning with `>` at the beginning of a text. -/
def scanGreater (cs : List Char) : Option (Symbol × Nat × List Char) :=
  scanIn greaterTable cs

end Symbol

end DirectImports.Source
