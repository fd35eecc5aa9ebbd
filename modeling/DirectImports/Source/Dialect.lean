import DirectImports.Path.Basic

/-!
# Dialects

A module is written in JavaScript or TypeScript, with or without JSX. Which one is decided by
the extension of its file, case included; a file with any other extension, or none, is taken for
TypeScript.

In a declaration file (`x.d.ts`) everything is ambient: constants need no initializer and
functions no body.
-/

namespace DirectImports.Source

/-- What the reader of a module has to know about its file. -/
structure Dialect where
  /-- type annotations and type declarations are part of the language -/
  typescript : Bool
  /-- `<a/>` is an expression -/
  jsx : Bool
  /-- the file only declares -/
  ambient : Bool
  /-- `await` may be used at top level -/
  topLevelAwait : Bool
deriving DecidableEq, Repr

namespace Dialect

/-- Plain JavaScript. -/
def javascript : Dialect := ⟨false, false, false, true⟩

/-- TypeScript without JSX. -/
def typescriptModule : Dialect := ⟨true, false, false, true⟩

/-- The parts of a name between its dots. -/
def dotParts : List Char → List (List Char)
  | [] => [[]]
  | c :: cs =>
    if c = '.' then [] :: dotParts cs
    else match dotParts cs with
      | [] => [[c]]
      | part :: rest => (c :: part) :: rest

/-- One of the last two parts of a stem is exactly `d`. -/
def endsInDeclarationPart (stem : String) : Bool :=
  ((dotParts stem.toList).reverse.take 2).contains ['d']

/-- The dialect of a file. -/
def ofPath (path : Path) : Dialect :=
  let stem := path.fileStem?.getD ""
  match path.extension? with
  | some "js" => javascript
  | some "mjs" => javascript
  | some "cjs" => { javascript with topLevelAwait := false }
  | some "jsx" => { javascript with jsx := true }
  | some "ts" => { typescriptModule with ambient := endsInDeclarationPart stem }
  | some "mts" =>
    { typescriptModule with ambient := ['d', '.'].isPrefixOf stem.toList.reverse }
  | some "cts" =>
    { typescriptModule with
      ambient := ['d', '.'].isPrefixOf stem.toList.reverse, topLevelAwait := false }
  | some "tsx" => { typescriptModule with jsx := true }
  | _ => typescriptModule

end Dialect

end DirectImports.Source
