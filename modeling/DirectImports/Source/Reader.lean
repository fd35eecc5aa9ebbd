import DirectImports.Source.Grammar.Statement

/-!
# Reading a module

`readItems` reads a text as the list of its top-level statements, or says what is wrong with it.
Here the rules of the grammar are tied together. Every rule that leads back to itself takes a token
in between, after at most a handful of others, so fuel proportional to the length of the text is
never used up.

A JavaScript module is also rejected if it exports a name twice; with types that is left to later
checks.
-/

namespace DirectImports.Source

open DirectImports.Source.Parser

/-! ## Tying the rules together -/

/-- The rule of each goal. -/
def rule (g : Grammar) : Grammar
  | .expression => g.expressionRule
  | .assign => g.assignRule
  | .binary level => g.binaryRule level
  | .unary => g.unaryRule
  | .leftHand => g.leftHandRule
  | .type => g.typeRule
  | .pattern => g.bindingPattern
  | .statement => g.statementRule
  | .jsx inside => g.jsxElement inside

/-- The grammar, for texts nested at most `fuel` rules deep. -/
def grammar : Nat → Grammar
  | 0 => fun _ => failure
  | fuel + 1 => rule (grammar fuel)

/-! ## What stands before the first token -/

/-- A text without a byte order mark. -/
def skipMark : List Char → List Char
  | c :: rest => if c.toNat = 0xFEFF then rest else c :: rest
  | [] => []

/-- A text without a first line that names an interpreter. -/
def skipInterpreter : List Char → List Char
  | '#' :: '!' :: rest => rest.dropWhile (!isLineBreak ·)
  | text => text

/-! ## Top level -/

/-- The context of top-level statements. -/
def topLevel (dialect : Dialect) (fuel : Nat) : Context :=
  { dialect := dialect, fuel := fuel, canReturn := false, yieldIsKeyword := false,
    awaitIsKeyword := dialect.topLevelAwait, allowIn := true, ambient := dialect.ambient,
    conditionalTypes := true, betweenBranches := false, inDecorator := false }

/-- The statements up to the end of the text. -/
def items (g : Grammar) : Parser (List Item) :=
  collecting do
    if (← token) == .eof then return none else return some (← g .statement)

/-- Only string literals at the very beginning are directives; these are no statements. -/
def dropDirectives (found : List Item) : List Item :=
  (found.dropWhile (· == .directive)).map fun item =>
    if item = .directive then .other else item

/-- The names that a statement exports. -/
def Item.exportedNames : Item → List String
  | .exportAll _ (some exported) => [exported]
  | .exportNames _ specifiers => specifiers.map (·.exported)
  | .exportDeclaration _ _ bound => bound
  | .exportDefault => ["default"]
  | _ => []

/-- The names that occur again later. -/
def repeated : List String → List String
  | [] => []
  | name :: rest => if rest.contains name then name :: repeated rest else repeated rest

/-! ## Faults -/

/-- What is said of a text that breaks a rule of the grammar. -/
def syntaxFault : String := "Unexpected token"

/-- What is said of a name that is exported again. -/
def repeatedFault (name : String) : String := "Duplicated export '" ++ name ++ "'"

/-- Faults in one line. -/
def inWords (faults : List String) : String := String.intercalate "; " faults

/-! ## Modules -/

/-- The statements of a module, or what is wrong with its text. -/
def readItems (dialect : Dialect) (source : String) : Except (List String) (List Item) :=
  let text := source.toList
  let unmarked := skipMark text
  let body := skipInterpreter unmarked
  let first := Lexeme.next (text.length - body.length) body
  let fuel := 8 * (text.length + 8)
  match items (grammar fuel) (topLevel dialect fuel) ⟨first, first.start, false⟩ with
  | some (found, state) =>
    let kept := dropDirectives found
    let again := if dialect.typescript then [] else repeated (kept.flatMap Item.exportedNames)
    if state.faulty then .error [syntaxFault]
    else if again.isEmpty then .ok kept
    else .error (again.map repeatedFault)
  | none => .error [syntaxFault]

/-- The statements of a module, unless its text is malformed. -/
def readItems? (dialect : Dialect) (source : String) : Option (List Item) :=
  (readItems dialect source).toOption

theorem readItems?_eq_some_iff {dialect : Dialect} {source : String} {items : List Item} :
    readItems? dialect source = some items ↔ readItems dialect source = .ok items := by
  unfold readItems?
  cases readItems dialect source <;> simp [Except.toOption]

end DirectImports.Source
