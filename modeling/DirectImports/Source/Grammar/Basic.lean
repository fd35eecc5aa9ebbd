import DirectImports.Source.Item
import DirectImports.Source.Parser

/-!
# The shape of the grammar

The grammar of expressions, types, patterns and statements is recursive throughout. Each rule is
an ordinary definition that takes the rules it leads back to as an argument, a `Grammar`; the
reader ties the knot once, with fuel. A rule is named by a `Goal`.

No tree is built. Of an expression only what later rules depend on is kept (`Expr`): whether it
can be assigned to, and a few shapes that restrict what may stand next to them.
-/

namespace DirectImports.Source

/-- What assignment can do with an expression. -/
inductive Target
  | none
  /-- a name or a property -/
  | simple
  /-- an object or array literal that can be read as a pattern -/
  | pattern
deriving DecidableEq, Repr

/-- Shapes of expressions that matter to what surrounds them. -/
inductive Shape
  | other
  | identifier (name : String)
  | string
  /-- an operator before its operand, not allowed left of `**` -/
  | unary
  /-- `??`, not to be mixed with `&&` and `||` -/
  | coalesce
  /-- `&&` or `||` -/
  | logical
  /-- `t = e`, which inside a pattern is a target with a default -/
  | assignment
  /-- an arrow function, which nothing continues -/
  | arrow
deriving DecidableEq, Repr

/-- What is kept of an expression. -/
structure Expr where
  target : Target
  shape : Shape
  /-- holds a shorthand property with a default, which only a pattern may have -/
  pending : Bool
deriving DecidableEq, Repr

namespace Expr

/-- An expression with no special part to play. -/
def value : Expr := ⟨.none, .other, false⟩

/-- A property of something. -/
def property : Expr := ⟨.simple, .other, false⟩

/-- An expression of a given shape that cannot be assigned to. -/
def shaped (shape : Shape) : Expr := ⟨.none, shape, false⟩

/-- The expression can be an element of a pattern, perhaps with a default. -/
def fitsPattern (e : Expr) : Bool :=
  e.target != .none || e.shape == .assignment

end Expr

/-- The rules that other rules lead back to. -/
inductive Goal
  /-- an expression, commas included -/
  | expression
  /-- an expression up to the next comma -/
  | assign
  /-- an expression of operators binding more tightly than a level -/
  | binary (level : Nat)
  /-- an operand -/
  | unary
  /-- an expression that can be called -/
  | leftHand
  | type
  /-- a binding pattern -/
  | pattern
  | statement
  /-- a JSX element, whose closing bracket is followed by what `inside` tells -/
  | jsx (inside : Bool)

/-- What the rule of a goal yields. -/
@[reducible]
def Goal.Result : Goal → Type
  | .expression => Expr
  | .assign => Expr
  | .binary _ => Expr
  | .unary => Expr
  | .leftHand => Expr
  | .type => Unit
  | .pattern => List String
  | .statement => Item
  | .jsx _ => Unit

/-- A parser for each goal. -/
abbrev Grammar := (goal : Goal) → Parser goal.Result

namespace Grammar

open DirectImports.Source.Parser

/-- An expression whose value is used: a pending shorthand default is a fault. -/
def settle (p : Parser Expr) : Parser Expr := do
  let e ← p
  require !e.pending
  return e

/-- The value of an expression up to the next comma. -/
def value (g : Grammar) : Parser Unit := do
  let _ ← settle (g .assign)

/-- The value of an expression up to the next comma, where `in` is an operator. -/
def valueWithIn (g : Grammar) : Parser Unit :=
  within ({ · with allowIn := true }) g.value

/-- The value of an expression, commas included, where `in` is an operator. -/
def fullValue (g : Grammar) : Parser Unit :=
  within ({ · with allowIn := true }) do
    let _ ← settle (g .expression)

/-- An expression in parentheses. -/
def parenthesized (g : Grammar) : Parser Unit := do
  expect .openParen
  g.fullValue
  expect .closeParen

end Grammar

end DirectImports.Source
