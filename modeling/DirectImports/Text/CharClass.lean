import DirectImports.Text.Alphabetic
import DirectImports.Text.IdentifierPart
import DirectImports.Text.Letter
import DirectImports.Text.Number

/-!
# Character classes

The classes that decide whether a name can be printed without quotes (`isAlphabetic`,
`isAlphanumeric`) and where an identifier of the source language begins and ends
(`isIdentifierStart`, `isIdentifierPart`). The two pairs differ: a name may pass the first test
and still be no identifier.
-/

namespace DirectImports.Text

/-- An ASCII letter. -/
def isAsciiLetter (c : Char) : Bool :=
  ('a' ≤ c && c ≤ 'z') || ('A' ≤ c && c ≤ 'Z')

/-- An ASCII decimal digit. -/
def isAsciiDigit (c : Char) : Bool :=
  '0' ≤ c && c ≤ '9'

/-- The Unicode property `Alphabetic`. -/
def isAlphabetic (c : Char) : Bool :=
  if c.toNat < 0x80 then isAsciiLetter c
  else CodeRange.holds letterRanges c.toNat || CodeRange.holds alphabeticExtraRanges c.toNat

/-- Alphabetic, or of general category number. -/
def isAlphanumeric (c : Char) : Bool :=
  if c.toNat < 0x80 then isAsciiLetter c || isAsciiDigit c
  else isAlphabetic c || CodeRange.holds numberRanges c.toNat

/-- The character may begin an identifier of the source language. -/
def isIdentifierStart (c : Char) : Bool :=
  if c.toNat < 0x80 then isAsciiLetter c || c == '$' || c == '_'
  else
    (CodeRange.holds letterRanges c.toNat && !CodeRange.holds identifierStartExcludedRanges c.toNat)
      || CodeRange.holds identifierStartExtraRanges c.toNat

/-- The character may continue an identifier of the source language: besides what may begin one,
digits, marks, connectors and the two zero-width joiners. -/
def isIdentifierPart (c : Char) : Bool :=
  if c.toNat < 0x80 then isAsciiLetter c || isAsciiDigit c || c == '$' || c == '_'
  else
    isIdentifierStart c || CodeRange.holds identifierPartExtraRanges c.toNat
      || c.toNat == 0x200C || c.toNat == 0x200D

end DirectImports.Text
