import DirectImports.Toml.Scalar
import DirectImports.Toml.Table

/-!
# Reading TOML text

`Toml.parse?` reads a whole document as a JSON value. A document is a sequence of lines: headers
and pairs of a key and a value, any of which a comment may follow.

Values may be nested eighty deep, so the reader recurses on the levels that are left; within a
container it goes on at most once for each character.
-/

namespace DirectImports.Toml

open Text

/-! ## Keys -/

/-- A character of a key without quotes. -/
def isKeyChar (c : Char) : Bool :=
  isAsciiLetter c || isAsciiDigit c || c == '_' || c == '-'

/-- One part of a key. -/
def readKeyPart (cs : List Char) : Option (String × List Char) :=
  match cs with
  | '"' :: rest => readBasic [] rest
  | '\'' :: rest => readLiteral [] rest
  | _ =>
    match cs.span isKeyChar with
    | ([], _) => none
    | (name, rest) => some (String.ofList name, rest)

/-- The parts of a key with dots between them, at most `fuel` of them. -/
def readKey : Nat → Read (List String)
  | 0, _ => none
  | fuel + 1, cs => do
    let (part, rest) ← readKeyPart (skipSpaces cs)
    match skipSpaces rest with
    | '.' :: rest =>
      let (parts, rest) ← readKey fuel rest
      return (part :: parts, rest)
    | rest => return ([part], rest)

/-! ## Values -/

/-- The items of an array after its bracket, at most `fuel` of them. -/
def readItems (value : Read Json.Value) : Nat → List Json.Value → Read (List Json.Value)
  | 0, _, _ => none
  | fuel + 1, done, cs =>
    match skipLines cs.length cs with
    | ']' :: rest => some (done.reverse, rest)
    | start => do
      let (item, rest) ← value start
      match skipLines rest.length rest with
      | ',' :: rest => readItems value fuel (item :: done) rest
      | ']' :: rest => return ((item :: done).reverse, rest)
      | _ => none

/-- A key, an equals sign and a value. -/
def readPair (value : Read Json.Value) (cs : List Char) :
    Option ((List String × Json.Value) × List Char) := do
  let (key, rest) ← readKey cs.length cs
  match rest with
  | '=' :: rest =>
    let (item, rest) ← value (skipSpaces rest)
    return ((key, item), rest)
  | _ => none

/-- The pairs of a table in braces, at most `fuel` of them. -/
def readPairs (value : Read Json.Value) : Nat → Fields → Read Fields
  | 0, _, _ => none
  | fuel + 1, done, cs =>
    match skipLines cs.length cs with
    | '\x7d' :: rest => some (done, rest)
    | start => do
      let ((key, item), rest) ← readPair value start
      let done ← done.addDotted key (.value item)
      match skipLines rest.length rest with
      | ',' :: rest => readPairs value fuel done rest
      | '\x7d' :: rest => return (done, rest)
      | _ => none

/-- A value in which `levels` containers may still be nested. -/
def readValue : Nat → Read Json.Value
  | 0, _ => none
  | levels + 1, cs =>
    match cs with
    | '[' :: rest => do
      let (items, rest) ← readItems (readValue levels) (rest.length + 1) [] rest
      return (.array items, rest)
    | '\x7b' :: rest => do
      let (fields, rest) ← readPairs (readValue levels) (rest.length + 1) [] rest
      return (.object (fieldsToJson fields), rest)
    | '"' :: _ => (readString cs).map fun (text, rest) => (.string text, rest)
    | '\'' :: _ => (readString cs).map fun (text, rest) => (.string text, rest)
    | _ => readScalar cs

/-- How deeply values may be nested. -/
def nestingLimit : Nat := 81

/-! ## Documents -/

/-- A document that is being read. -/
structure Document where
  fields : Fields
  /-- the table that the last header named -/
  current : List String

/-- The text after the end of a line on which nothing but a comment is left. -/
def finishLine (cs : List Char) : Option (List Char) :=
  match skipComment (skipSpaces cs) with
  | [] => some []
  | rest => lineEnd? rest

/-- One line that is not empty. -/
def readLine (document : Document) (cs : List Char) : Option (Document × List Char) :=
  match cs with
  | '[' :: '[' :: rest => do
    let (path, rest) ← readKey rest.length rest
    match rest with
    | ']' :: ']' :: rest => return (⟨← document.fields.openItem path, path⟩, rest)
    | _ => none
  | '[' :: rest => do
    let (path, rest) ← readKey rest.length rest
    match rest with
    | ']' :: rest => return (⟨← document.fields.openTable path, path⟩, rest)
    | _ => none
  | _ => do
    let ((key, item), rest) ← readPair (readValue nestingLimit) cs
    let fields ←
      document.fields.descend false (·.addDotted key (.value item)) document.current
    return ({ document with fields := fields }, rest)

/-- The lines of a document, at most `fuel` of them. -/
def readLines : Nat → Document → List Char → Option Document
  | 0, _, _ => none
  | fuel + 1, document, cs =>
    match skipLines cs.length cs with
    | [] => some document
    | start => do
      let (document, rest) ← readLine document start
      let rest ← finishLine rest
      readLines fuel document rest

/-- The text without a byte order mark. -/
def skipMark : List Char → List Char
  | c :: rest => if c.toNat = 0xFEFF then rest else c :: rest
  | [] => []

/-- The value of a whole document. -/
def parse? (text : String) : Option Json.Value := do
  let cs := skipMark text.toList
  let document ← readLines (cs.length + 1) ⟨[], []⟩ cs
  return .object (fieldsToJson document.fields)

end DirectImports.Toml
