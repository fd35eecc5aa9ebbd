import DirectImports.Json.Reader

/-!
# Strings, numbers and dates of TOML

Scalars become JSON values. Numbers that are not finite have no JSON value and become null; a
date becomes an object with one field.
-/

namespace DirectImports.Toml

open Text

/-- Something read, and the text that follows it. -/
abbrev Read (α : Type) := List Char → Option (α × List Char)

/-! ## Blanks and comments -/

/-- A blank within a line. -/
def isSpace (c : Char) : Bool := c == ' ' || c == '\t'

/-- The text after leading blanks. -/
def skipSpaces (cs : List Char) : List Char := cs.dropWhile isSpace

/-- A character that may stand in comments and strings. -/
def isPlain (c : Char) : Bool := c == '\t' || (0x20 ≤ c.toNat && c.toNat != 0x7F)

/-- The text after the end of a line, if the line ends here. -/
def lineEnd? : List Char → Option (List Char)
  | '\n' :: rest => some rest
  | '\r' :: '\n' :: rest => some rest
  | _ => none

/-- The text after a comment, if there is one. -/
def skipComment : List Char → List Char
  | '#' :: rest => rest.dropWhile isPlain
  | cs => cs

/-- The text after blanks, comments and ends of lines. -/
def skipLines : Nat → List Char → List Char
  | 0, cs => cs
  | fuel + 1, cs =>
    let rest := skipComment (skipSpaces cs)
    match lineEnd? rest with
    | some next => skipLines fuel next
    | none => rest

/-! ## Strings -/

/-- The character a one-letter escape stands for. -/
def simpleEscape? (c : Char) : Option Char :=
  if c = '"' ∨ c = '\\' then some c
  else if c = 'b' then some '\x08'
  else if c = 't' then some '\t'
  else if c = 'n' then some '\n'
  else if c = 'f' then some '\x0c'
  else if c = 'r' then some '\r'
  else if c = 'e' then some '\x1b'
  else none

/-- The character with the given hexadecimal digits. -/
def hexChar? (digits : List Char) : Option Char :=
  (hexValue? digits).bind charOf?

/-- The rest of a string on one line, after its opening quote. -/
def readBasic (done : List Char) : Read String
  | '"' :: rest => some (String.ofList done.reverse, rest)
  | '\\' :: 'x' :: a :: b :: rest =>
    match hexChar? [a, b] with
    | some c => readBasic (c :: done) rest
    | none => none
  | '\\' :: 'u' :: a :: b :: c :: d :: rest =>
    match hexChar? [a, b, c, d] with
    | some c => readBasic (c :: done) rest
    | none => none
  | '\\' :: 'U' :: a :: b :: c :: d :: e :: f :: g :: h :: rest =>
    match hexChar? [a, b, c, d, e, f, g, h] with
    | some c => readBasic (c :: done) rest
    | none => none
  | '\\' :: c :: rest =>
    match simpleEscape? c with
    | some c => readBasic (c :: done) rest
    | none => none
  | c :: rest => if isPlain c && c != '\\' then readBasic (c :: done) rest else none
  | [] => none

/-- The rest of a string without escapes on one line, after its opening quote. -/
def readLiteral (done : List Char) : Read String
  | [] => none
  | c :: rest =>
    if c = '\'' then some (String.ofList done.reverse, rest)
    else if isPlain c then readLiteral (c :: done) rest
    else none

/-- What three quotes end: up to two more quotes still belong to the text. -/
def closeQuotes (quote : Char) (done : List Char) (rest : List Char) : String × List Char :=
  match rest with
  | a :: b :: tail =>
    if a = quote ∧ b = quote then (String.ofList (quote :: quote :: done).reverse, tail)
    else if a = quote then (String.ofList (quote :: done).reverse, b :: tail)
    else (String.ofList done.reverse, rest)
  | a :: tail =>
    if a = quote then (String.ofList (quote :: done).reverse, tail)
    else (String.ofList done.reverse, rest)
  | [] => (String.ofList done.reverse, rest)

/-- Only blanks stand before the end of the line. -/
def blankLine (cs : List Char) : Bool := (lineEnd? (skipSpaces cs)).isSome

/-- The rest of a string on several lines. After a backslash at the end of a line, `trimming`
skips to the next character that is no blank. -/
def readBasicLines (trimming : Bool) (done : List Char) : Read String
  | '"' :: '"' :: '"' :: rest => some (closeQuotes '"' done rest)
  | '\\' :: 'x' :: a :: b :: rest =>
    match hexChar? [a, b] with
    | some c => readBasicLines false (c :: done) rest
    | none => none
  | '\\' :: 'u' :: a :: b :: c :: d :: rest =>
    match hexChar? [a, b, c, d] with
    | some c => readBasicLines false (c :: done) rest
    | none => none
  | '\\' :: 'U' :: a :: b :: c :: d :: e :: f :: g :: h :: rest =>
    match hexChar? [a, b, c, d, e, f, g, h] with
    | some c => readBasicLines false (c :: done) rest
    | none => none
  | '\\' :: c :: rest =>
    match simpleEscape? c with
    | some c => readBasicLines false (c :: done) rest
    | none => if blankLine (c :: rest) then readBasicLines true done (c :: rest) else none
  | '\r' :: '\n' :: rest =>
    if trimming then readBasicLines true done rest else readBasicLines false ('\n' :: done) rest
  | c :: rest =>
    if trimming && (isSpace c || c == '\n') then readBasicLines true done rest
    else if (isPlain c || c == '\n') && c != '\\' then readBasicLines false (c :: done) rest
    else none
  | [] => none

/-- The rest of a string without escapes on several lines. -/
def readLiteralLines (done : List Char) : Read String
  | '\'' :: '\'' :: '\'' :: rest => some (closeQuotes '\'' done rest)
  | '\r' :: '\n' :: rest => readLiteralLines ('\n' :: done) rest
  | c :: rest => if isPlain c || c == '\n' then readLiteralLines (c :: done) rest else none
  | [] => none

/-- The text after the end of the line that a string on several lines may begin with. -/
def skipFirstLine (cs : List Char) : List Char := (lineEnd? cs).getD cs

/-- A string of any kind. -/
def readString : Read String
  | '"' :: '"' :: '"' :: rest => readBasicLines false [] (skipFirstLine rest)
  | '\'' :: '\'' :: '\'' :: rest => readLiteralLines [] (skipFirstLine rest)
  | '"' :: rest => readBasic [] rest
  | '\'' :: rest => readLiteral [] rest
  | _ => none

/-! ## Numbers -/

/-- Digits with single underscores between them, without the underscores. -/
def digits? (isDigit : Char → Bool) : List Char → Option (List Char)
  | [] => none
  | [c] => if isDigit c then some [c] else none
  | c :: '_' :: rest => if isDigit c then (digits? isDigit rest).map (c :: ·) else none
  | c :: rest => if isDigit c then (digits? isDigit rest).map (c :: ·) else none

/-- The sign of a number, and the rest. -/
def takeSign : List Char → Bool × List Char
  | '-' :: rest => (true, rest)
  | '+' :: rest => (false, rest)
  | cs => (false, cs)

/-- An integer, which fits 64 bits. -/
def integer? (value : Int) : Option Json.Value :=
  if -(Nat.pow 2 63 : Int) ≤ value ∧ value < (Nat.pow 2 63 : Int) then some (.integer value) else none

/-- The value of digits in a base. -/
def valueIn (base : Nat) (digits : List Char) : Int :=
  digits.foldl (fun value c => value * base + ((hexDigit? c).getD 0 : Nat)) 0

/-- Digits of a base below sixteen. -/
def isDigitOf (base : Nat) (c : Char) : Bool := (hexDigit? c).any (· < base)

/-- An integer with a base of its own. -/
def readBased (base : Nat) (cs : List Char) : Option Json.Value := do
  let digits ← digits? (isDigitOf base) cs
  integer? (valueIn base digits)

/-- Decimal digits without a leading zero. -/
def whole? (cs : List Char) : Option (List Char) := do
  let digits ← digits? isAsciiDigit cs
  if digits.head? = some '0' ∧ digits.length ≠ 1 then none else some digits

/-- The exponent that follows `e`. -/
def exponent? (cs : List Char) : Option Int := do
  let (negative, rest) := takeSign cs
  let digits ← digits? isAsciiDigit rest
  let value := valueIn 10 digits
  return if negative then -value else value

/-- The mark of an exponent. -/
def isExponentMark (c : Char) : Bool := c == 'e' || c == 'E'

/-- A decimal number, without its sign. -/
def readDecimal (negative : Bool) (cs : List Char) : Option Json.Value := do
  let (mantissa, exponent) := cs.span (!isExponentMark ·)
  let (before, fraction) := mantissa.span (· != '.')
  let whole ← whole? before
  let power ← match exponent with
    | _ :: rest => (exponent? rest).map some
    | [] => some none
  match fraction, power with
  | [], none =>
    let value := valueIn 10 whole
    integer? (if negative then -value else value)
  | [], some power => Json.numberOf? negative whole [] (some power)
  | _ :: rest, power => do
    let places ← digits? isAsciiDigit rest
    Json.numberOf? negative whole places (some (power.getD 0))

/-- A number. -/
def readNumber (cs : List Char) : Option Json.Value :=
  match cs with
  | '0' :: 'x' :: rest => readBased 16 rest
  | '0' :: 'o' :: rest => readBased 8 rest
  | '0' :: 'b' :: rest => readBased 2 rest
  | _ =>
    let (negative, rest) := takeSign cs
    if rest = ['i', 'n', 'f'] ∨ rest = ['n', 'a', 'n'] then some .null
    else readDecimal negative rest

/-! ## Dates and times -/

/-- The value of exactly `count` digits, and the rest. -/
def takeNumber (count : Nat) (cs : List Char) : Option (Nat × List Char) :=
  let digits := cs.take count
  if digits.length = count ∧ digits.all isAsciiDigit then
    some (Json.digitsValue digits, cs.drop count)
  else none

/-- The days of a month. -/
def daysIn (year month : Nat) : Nat :=
  if month = 2 then
    if year % 4 = 0 ∧ (year % 100 ≠ 0 ∨ year % 400 = 0) then 29 else 28
  else if month = 4 ∨ month = 6 ∨ month = 9 ∨ month = 11 then 30
  else 31

/-- What follows a date `1979-05-27`. -/
def dateRest (cs : List Char) : Option (List Char) := do
  let (year, rest) ← takeNumber 4 cs
  match rest with
  | '-' :: rest =>
    let (month, rest) ← takeNumber 2 rest
    match rest with
    | '-' :: rest =>
      let (day, rest) ← takeNumber 2 rest
      if 1 ≤ month ∧ month ≤ 12 ∧ 1 ≤ day ∧ day ≤ daysIn year month then some rest else none
    | _ => none
  | _ => none

/-- What follows a fraction of a second. -/
def fractionRest : List Char → Option (List Char)
  | '.' :: rest =>
    match rest.span isAsciiDigit with
    | ([], _) => none
    | (_, rest) => some rest
  | cs => some cs

/-- What follows a time `07:32:00.5`, whose seconds may be left out. -/
def timeRest (cs : List Char) : Option (List Char) := do
  let (hour, rest) ← takeNumber 2 cs
  match rest with
  | ':' :: rest =>
    let (minute, rest) ← takeNumber 2 rest
    if 23 < hour ∨ 59 < minute then none
    else
      match rest with
      | ':' :: rest =>
        let (second, rest) ← takeNumber 2 rest
        if 60 < second then none else fractionRest rest
      | rest => some rest
  | _ => none

/-- The text is an offset from universal time, or empty. -/
def isOffset : List Char → Bool
  | [] => true
  | ['Z'] => true
  | ['z'] => true
  | [sign, a, b, ':', c, d] =>
    (sign == '+' || sign == '-')
      && ((takeNumber 2 [a, b]).any fun hour => hour.1 ≤ 23)
      && ((takeNumber 2 [c, d]).any fun minute => minute.1 ≤ 59)
  | _ => false

/-- The text is a time with or without an offset. -/
def isTimeWithOffset (cs : List Char) : Bool :=
  (timeRest cs).any isOffset

/-- The text is a date, a time, or a date with a time. -/
def isDateTime (cs : List Char) : Bool :=
  match dateRest cs with
  | some [] => true
  | some (c :: rest) => (c == 'T' || c == 't' || c == ' ') && isTimeWithOffset rest
  | none => timeRest cs == some []

/-- The field under which a date is kept. -/
def dateField : String := "$__toml_private_datetime"

/-! ## Scalars without quotes -/

/-- A character that ends a scalar without quotes. -/
def endsScalar (c : Char) : Bool :=
  [' ', '\t', '\r', '\n', '#', ',', '[', ']', '\x7b', '\x7d', '=', '"', '\''].contains c

/-- The text of a scalar without quotes; a date and a time may have one blank between them. -/
def takeScalar (cs : List Char) : List Char × List Char :=
  let (first, rest) := cs.span (!endsScalar ·)
  match dateRest first, rest with
  | some [], ' ' :: next =>
    let (time, after) := next.span (!endsScalar ·)
    if isTimeWithOffset time then (first ++ ' ' :: time, after) else (first, rest)
  | _, _ => (first, rest)

/-- A boolean, number or date. -/
def readScalar (cs : List Char) : Option (Json.Value × List Char) :=
  let (text, rest) := takeScalar cs
  if text = ['t', 'r', 'u', 'e'] then some (.bool true, rest)
  else if text = ['f', 'a', 'l', 's', 'e'] then some (.bool false, rest)
  else if isDateTime text then
    some (.object [(dateField, .string (String.ofList text))], rest)
  else (readNumber text).map fun value => (value, rest)

end DirectImports.Toml
