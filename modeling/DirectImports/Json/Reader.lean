import DirectImports.Json.Basic
import DirectImports.Text.CharClass
import DirectImports.Text.Hex

/-!
# Reading JSON text

`Json.parse?` reads a whole text. Nesting is limited to 127 containers, so the reader recurses on
the levels that are left; within a container it goes on at most once for each character.

A string holds no control character, and its `\u` escapes must pair up their surrogates. A
number too large for a double is refused.
-/

namespace DirectImports.Json

open Text

/-- Blanks between tokens. -/
def isBlank (c : Char) : Bool :=
  c == ' ' || c == '\t' || c == '\n' || c == '\r'

/-- The text after leading blanks. -/
def skipBlank (cs : List Char) : List Char :=
  cs.dropWhile isBlank

/-! ## Strings -/

/-- The character a one-letter escape stands for. -/
def simpleEscape? (c : Char) : Option Char :=
  if c = '"' ∨ c = '\\' ∨ c = '/' then some c
  else if c = 'b' then some '\x08'
  else if c = 'f' then some '\x0c'
  else if c = 'n' then some '\n'
  else if c = 'r' then some '\r'
  else if c = 't' then some '\t'
  else none

/-- The rest of a string after its opening quote: the characters read so far are `done`, last
first. -/
def readString (done : List Char) : List Char → Option (String × List Char)
  | '"' :: rest => some (String.ofList done.reverse, rest)
  | '\\' :: 'u' :: a :: b :: c :: d :: rest =>
    match hexValue? [a, b, c, d] with
    | none => none
    | some unit =>
      if isHighSurrogate unit then
        match rest with
        | '\\' :: 'u' :: e :: f :: g :: h :: rest =>
          match hexValue? [e, f, g, h] with
          | none => none
          | some low =>
            if isLowSurrogate low then
              readString (Char.ofNat (ofSurrogates unit low) :: done) rest
            else none
        | _ => none
      else
        match charOf? unit with
        | none => none
        | some char => readString (char :: done) rest
  | '\\' :: c :: rest =>
    match simpleEscape? c with
    | none => none
    | some char => readString (char :: done) rest
  | c :: rest => if c.toNat < 0x20 ∨ c = '\\' then none else readString (c :: done) rest
  | [] => none

/-! ## Numbers -/

/-- The digits at the beginning of a text and what follows them. -/
def takeDigits (cs : List Char) : List Char × List Char :=
  cs.span isAsciiDigit

/-- The value of decimal digits. -/
def digitsValue (digits : List Char) : Nat :=
  digits.foldl (fun value c => value * 10 + (c.toNat - '0'.toNat)) 0

/-- The fraction of a number, which needs a digit after its point. -/
def readFraction : List Char → Option (List Char × List Char)
  | '.' :: rest =>
    let (digits, rest) := takeDigits rest
    if digits = [] then none else some (digits, rest)
  | cs => some ([], cs)

/-- The exponent of a number, none if it has none. -/
def readExponent : List Char → Option (Option Int × List Char)
  | c :: rest =>
    if c = 'e' ∨ c = 'E' then
      let (negative, rest) := match rest with
        | '-' :: rest => (true, rest)
        | '+' :: rest => (false, rest)
        | rest => (false, rest)
      let (digits, rest) := takeDigits rest
      if digits = [] then none
      else
        let value : Int := digitsValue digits
        some (some (if negative then -value else value), rest)
    else some (none, c :: rest)
  | [] => some (none, [])

/-- The number with the given parts: an integer if it is written as one and fits. -/
def numberOf? (negative : Bool) (whole fraction : List Char) (exponent : Option Int) :
    Option Value :=
  let value := digitsValue whole
  if fraction = [] ∧ exponent = none ∧ value < Nat.pow 2 64
      ∧ ¬(negative ∧ (value = 0 ∨ Nat.pow 2 63 < value)) then
    some (.integer (if negative then -(value : Int) else value))
  else
    let digits := digitsValue (whole ++ fraction)
    let power := exponent.getD 0 - fraction.length
    -- beyond these bounds every number is zero or too large
    let power := if digits = 0 then 0 else max power (-20000 - (whole ++ fraction).length)
    if 20000 < power then none
    else (Decimal.Binary64.ofDecimal negative digits power).map .float

/-- A number; a leading zero stands alone. -/
def readNumber (cs : List Char) : Option (Value × List Char) :=
  let (negative, cs) := match cs with
    | '-' :: rest => (true, rest)
    | cs => (false, cs)
  let (whole, rest) := takeDigits cs
  if whole = [] ∨ (whole.head? = some '0' ∧ whole.length ≠ 1) then none
  else do
    let (fraction, rest) ← readFraction rest
    let (exponent, rest) ← readExponent rest
    let value ← numberOf? negative whole fraction exponent
    return (value, rest)

/-! ## Values -/

/-- Something read, and the text that follows it. -/
abbrev Read (α : Type) := List Char → Option (α × List Char)

/-- The items of an array after its bracket, at most `fuel` of them. -/
def readItems (value : Read Value) : Nat → List Value → Read (List Value)
  | 0, _, _ => none
  | fuel + 1, done, cs => do
    let (item, rest) ← value cs
    match skipBlank rest with
    | ',' :: rest => readItems value fuel (item :: done) rest
    | ']' :: rest => return ((item :: done).reverse, rest)
    | _ => none

/-- The fields of an object after its brace, at most `fuel` of them. -/
def readFields (value : Read Value) : Nat → List (String × Value) → Read (List (String × Value))
  | 0, _, _ => none
  | fuel + 1, done, cs =>
    match skipBlank cs with
    | '"' :: rest => do
      let (key, rest) ← readString [] rest
      match skipBlank rest with
      | ':' :: rest => do
        let (item, rest) ← value rest
        match skipBlank rest with
        | ',' :: rest => readFields value fuel (putField done key item) rest
        | '\x7d' :: rest => return (putField done key item, rest)
        | _ => none
      | _ => none
    | _ => none

/-- A value in which `levels` containers may still be nested. -/
def readValue : Nat → Read Value
  | 0, _ => none
  | levels + 1, cs =>
    match skipBlank cs with
    | 'n' :: 'u' :: 'l' :: 'l' :: rest => some (.null, rest)
    | 't' :: 'r' :: 'u' :: 'e' :: rest => some (.bool true, rest)
    | 'f' :: 'a' :: 'l' :: 's' :: 'e' :: rest => some (.bool false, rest)
    | '"' :: rest => (readString [] rest).map fun (text, rest) => (.string text, rest)
    | '[' :: rest =>
      if levels = 0 then none
      else match skipBlank rest with
        | ']' :: rest => some (.array [], rest)
        | rest => do
          let (items, rest) ← readItems (readValue levels) rest.length [] rest
          return (.array items, rest)
    | '\x7b' :: rest =>
      if levels = 0 then none
      else match skipBlank rest with
        | '\x7d' :: rest => some (.object [], rest)
        | rest => do
          let (fields, rest) ← readFields (readValue levels) rest.length [] rest
          return (.object fields, rest)
    | cs => readNumber cs

/-- How deeply values may be nested, the innermost scalar included. -/
def nestingLimit : Nat := 128

/-- The value a whole text denotes. -/
def parse? (text : String) : Option Value := do
  let (value, rest) ← readValue nestingLimit text.toList
  if skipBlank rest = [] then some value else none

end DirectImports.Json
