import DirectImports.Text.CharClass
import DirectImports.Text.Hex

/-!
# Literals

Scanners for the parts of the source language that are longer than a punctuator: words, strings,
templates, numbers and regular expressions. Each takes the text from where the literal begins and
returns what it read, how many characters that took, and the rest; `none` means that the literal
is malformed or does not end.

The loops go through the text character by character. An escape sequence is read as a whole where
it begins, and a loop carries how many of its characters are still to be passed over.
-/

namespace DirectImports.Source

open Text

/-- What was scanned, the number of characters it took, and the rest. -/
abbrev Scanned (α : Type) := α × Nat × List Char

/-- A character that ends a line. -/
def isLineBreak (c : Char) : Bool :=
  c == '\n' || c == '\r' || c.toNat == 0x2028 || c.toNat == 0x2029

/-- A blank within a line. -/
def isBlank (c : Char) : Bool :=
  let n := c.toNat
  c == ' ' || c == '\t' || n == 0x0B || n == 0x0C || n == 0x85 || n == 0xA0 || n == 0x1680
    || n == 0x180E || (0x2000 ≤ n && n ≤ 0x200B) || n == 0x202F || n == 0x205F || n == 0x3000
    || n == 0xFEFF

/-! ## Escape sequences -/

/-- The code point of a `\u` escape, from after the `u`. -/
def unicodeEscape : List Char → Option (Scanned Nat)
  | '\x7b' :: rest =>
    let digits := rest.takeWhile (· != '\x7d')
    match hexValue? digits, rest.drop digits.length with
    | some code, '\x7d' :: tail =>
      if digits = [] ∨ 0x10FFFF < code then none else some (code, digits.length + 2, tail)
    | _, _ => none
  | a :: b :: c :: d :: rest => (hexValue? [a, b, c, d]).map fun code => (code, 4, rest)
  | _ => none

/-- An octal digit. -/
def isOctalDigit (c : Char) : Bool := '0' ≤ c && c ≤ '7'

/-- The digits of an octal escape: three if the first is at most `3`, else two. -/
def octalEscape (cs : List Char) : List Char :=
  let width := if cs.head?.any (· ≤ '3') then 3 else 2
  (cs.take width).takeWhile isOctalDigit

/-- The units an escape sequence stands for, from after the backslash. -/
def escapeUnits : List Char → Option (Scanned (List Nat))
  | [] => none
  | c :: rest =>
    if c = '\r' then
      match rest with
      | '\n' :: tail => some ([], 2, tail)
      | _ => some ([], 1, rest)
    else if isLineBreak c then some ([], 1, rest)
    else if c = 'n' then some ([0x0A], 1, rest)
    else if c = 't' then some ([0x09], 1, rest)
    else if c = 'r' then some ([0x0D], 1, rest)
    else if c = 'b' then some ([0x08], 1, rest)
    else if c = 'f' then some ([0x0C], 1, rest)
    else if c = 'v' then some ([0x0B], 1, rest)
    else if c = 'x' then
      match rest with
      | a :: b :: tail => (hexValue? [a, b]).map fun code => ([code], 3, tail)
      | _ => none
    else if c = 'u' then
      (unicodeEscape rest).map fun (code, n, tail) => ([code], n + 1, tail)
    else if isOctalDigit c then
      let digits := octalEscape (c :: rest)
      let code := digits.foldl (fun value d => value * 8 + (d.toNat - '0'.toNat)) 0
      some ([code], digits.length, (c :: rest).drop digits.length)
    else some ([c.toNat], 1, rest)

/-! ## Words -/

/-- The characters of a word from a given place on, after `skip` more characters; `first` tells
whether the next one begins the word. -/
def wordChars :
    Nat → Bool → List Char → Bool → Nat → List Char → Option (Scanned (List Char × Bool))
  | _, first, done, escaped, n, [] =>
    if first then none else some ((done.reverse, escaped), n, [])
  | skip + 1, first, done, escaped, n, _ :: rest => wordChars skip first done escaped (n + 1) rest
  | 0, first, done, escaped, n, c :: rest =>
    let accepts := if first then isIdentifierStart else isIdentifierPart
    if c = '\\' then
      match rest with
      | 'u' :: digits => do
        let (code, length, _) ← unicodeEscape digits
        let decoded ← charOf? code
        if accepts decoded then wordChars (length + 1) false (decoded :: done) true (n + 1) rest
        else none
      | _ => none
    else if accepts c then wordChars 0 false (c :: done) escaped (n + 1) rest
    else if first then none
    else some ((done.reverse, escaped), n, c :: rest)

/-- A word, and whether an escape occurs in it. -/
def scanWord (cs : List Char) : Option (Scanned (String × Bool)) :=
  (wordChars 0 true [] false 0 cs).map fun ((chars, escaped), n, rest) =>
    ((String.ofList chars, escaped), n, rest)

/-! ## Strings -/

/-- The units of a string up to its closing quote, after `skip` more characters. -/
def stringUnits (quote : Char) : Nat → List Nat → Nat → List Char → Option (Scanned (List Nat))
  | _, _, _, [] => none
  | skip + 1, done, n, _ :: rest => stringUnits quote skip done (n + 1) rest
  | 0, done, n, c :: rest =>
    if c = quote then some (done.reverse, n + 1, rest)
    else if c = '\\' then do
      let (units, length, _) ← escapeUnits rest
      stringUnits quote length (units.reverse ++ done) (n + 1) rest
    else if c = '\n' ∨ c = '\r' then none
    else stringUnits quote 0 (c.toNat :: done) (n + 1) rest

/-- Units with the halves of surrogate pairs joined. -/
def joinSurrogates : List Nat → List Nat
  | high :: low :: rest =>
    if isHighSurrogate high && isLowSurrogate low then ofSurrogates high low :: joinSurrogates rest
    else high :: joinSurrogates (low :: rest)
  | units => units

/-- A half of a surrogate pair. -/
def isSurrogate (unit : Nat) : Bool := isHighSurrogate unit || isLowSurrogate unit

/-- The text of units. If a lone surrogate is among them, it is written as the replacement
character followed by its four digits, and so is the replacement character itself. -/
def unitsText (units : List Nat) : String × Bool :=
  let joined := joinSurrogates units
  if joined.any isSurrogate then
    (String.ofList (joined.flatMap fun unit =>
      if isSurrogate unit || unit == 0xFFFD then Char.ofNat 0xFFFD :: hex4 unit
      else [Char.ofNat unit]), false)
  else (String.ofList (joined.map Char.ofNat), true)

/-- A string literal from after its opening quote: its value, and whether that is well-formed
text. -/
def scanString (quote : Char) (cs : List Char) : Option (Scanned (String × Bool)) :=
  (stringUnits quote 0 [] 0 cs).map fun (units, n, rest) =>
    (unitsText units, n, rest)

/-! ## Templates -/

/-- An escape sequence that a template without a tag may hold. -/
def isTemplateEscape (cs : List Char) : Bool :=
  match cs with
  | '0' :: rest => !rest.head?.any Char.isDigit
  | c :: _ => !Char.isDigit c && (escapeUnits cs).isSome
  | [] => false

/-- The characters of a template up to its end or its next substitution, after `skip` more
characters: whether it ends there, and whether its escape sequences are well-formed. -/
def templateChars : Nat → Bool → Nat → List Char → Option (Scanned (Bool × Bool))
  | _, _, _, [] => none
  | skip + 1, wellFormed, n, _ :: rest => templateChars skip wellFormed (n + 1) rest
  | 0, wellFormed, n, '\x60' :: rest => some ((true, wellFormed), n + 1, rest)
  | 0, wellFormed, n, '$' :: '\x7b' :: rest => some ((false, wellFormed), n + 2, rest)
  | 0, wellFormed, n, '\\' :: rest =>
    templateChars 1 (wellFormed && isTemplateEscape rest) (n + 1) rest
  | 0, wellFormed, n, _ :: rest => templateChars 0 wellFormed (n + 1) rest

/-- A template from after its backtick or the brace that ends a substitution. -/
def scanTemplate (cs : List Char) : Option (Scanned (Bool × Bool)) :=
  templateChars 0 true 0 cs

/-! ## Numbers -/

/-- Underscores stand only between digits. -/
def separatorsFit : List Char → Bool
  | [] => true
  | ['_'] => false
  | '_' :: '_' :: _ => false
  | _ :: rest => separatorsFit rest

/-- A run of digits with separators: its length and the rest. -/
def digitRun (isDigit : Char → Bool) (cs : List Char) : Option (Scanned Unit) :=
  let run := cs.takeWhile fun c => isDigit c || c == '_'
  if run = [] ∨ run.head? = some '_' ∨ !separatorsFit run then none
  else some ((), run.length, cs.drop run.length)

/-- A run of digits that may be missing. -/
def optionalDigits (cs : List Char) : Option (Scanned Unit) :=
  if cs.head?.any (fun c => isAsciiDigit c || c == '_') then digitRun isAsciiDigit cs
  else some ((), 0, cs)

/-- The fraction of a decimal number, if there is one. -/
def decimalFraction : List Char → Option (Scanned Bool)
  | '.' :: rest => (optionalDigits rest).map fun (_, n, tail) => (true, n + 1, tail)
  | cs => some (false, 0, cs)

/-- The exponent of a decimal number, if there is one. -/
def decimalExponent : List Char → Option (Scanned Bool)
  | c :: rest =>
    if c = 'e' ∨ c = 'E' then
      let signed := rest.head?.any fun s => s == '+' || s == '-'
      let digits := if signed then rest.drop 1 else rest
      (digitRun isAsciiDigit digits).map fun (_, n, tail) =>
        (true, n + 1 + (if signed then 1 else 0), tail)
    else some (false, 0, c :: rest)
  | [] => some (false, 0, [])

/-- What may not follow a number: a digit or the beginning of a word. -/
def continuesNumber (cs : List Char) : Bool :=
  cs.head?.any fun c => isAsciiDigit c || isIdentifierStart c || c == '\\'

/-- Accepts a number that nothing illegal follows; an `n` makes it a big integer. -/
def closeNumber (integral : Bool) (n : Nat) (rest : List Char) : Option (Scanned Bool) :=
  match rest with
  | 'n' :: tail =>
    if integral && !continuesNumber tail then some (true, n + 1, tail) else none
  | _ => if continuesNumber rest then none else some (false, n, rest)

/-- A decimal number; `legacy` if it begins with a zero and another digit. -/
def decimalNumber (cs : List Char) : Option (Scanned Bool) := do
  let legacy := match cs with
    | '0' :: c :: _ => isAsciiDigit c || c == '_'
    | _ => false
  let ((), whole, rest) ← optionalDigits cs
  if legacy && ((cs.take whole).contains '_') then none
  else if legacy && (cs.take whole).all isOctalDigit then closeNumber false whole rest
  else do
    let (fraction, n, rest) ← decimalFraction rest
    let (exponent, m, rest) ← decimalExponent rest
    closeNumber (!fraction && !exponent && !legacy) (whole + n + m) rest

/-- A number in another base, from after its two-letter mark. -/
def basedNumber (isDigit : Char → Bool) (cs : List Char) : Option (Scanned Bool) := do
  let ((), n, rest) ← digitRun isDigit cs
  closeNumber true (n + 2) rest

/-- A number, and whether it is a big integer. -/
def scanNumber (cs : List Char) : Option (Scanned Bool) :=
  match cs with
  | '0' :: mark :: rest =>
    if mark = 'x' ∨ mark = 'X' then basedNumber (fun c => (hexDigit? c).isSome) rest
    else if mark = 'o' ∨ mark = 'O' then basedNumber isOctalDigit rest
    else if mark = 'b' ∨ mark = 'B' then basedNumber (fun c => c == '0' || c == '1') rest
    else decimalNumber cs
  | _ => decimalNumber cs

/-! ## Regular expressions -/

/-- The body of a regular expression up to its closing slash; inside brackets a slash is
literal. -/
def regexBody : Bool → List Char → Nat → Option (Scanned Unit)
  | _, [], _ => none
  | inClass, c :: rest, n =>
    if isLineBreak c then none
    else if c = '\\' then
      match rest with
      | escaped :: tail => if isLineBreak escaped then none else regexBody inClass tail (n + 2)
      | [] => none
    else if c = '/' ∧ ¬inClass then some ((), n + 1, rest)
    else if c = '[' then regexBody true rest (n + 1)
    else if c = ']' then regexBody false rest (n + 1)
    else regexBody inClass rest (n + 1)

/-- Known flags, none twice, and not both kinds of Unicode mode. -/
def flagsFit (flags : List Char) : Bool :=
  flags.all (fun c => ['d', 'g', 'i', 'm', 's', 'u', 'v', 'y'].contains c)
    && flags.eraseDups.length == flags.length && !(flags.contains 'u' && flags.contains 'v')

/-- A regular expression from after its opening slash. -/
def scanRegex (cs : List Char) : Option (Scanned Unit) := do
  let ((), n, rest) ← regexBody false cs 0
  let flags := rest.takeWhile isIdentifierPart
  if flagsFit flags then some ((), n + flags.length, rest.drop flags.length) else none

end DirectImports.Source
