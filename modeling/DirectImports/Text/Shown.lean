import DirectImports.Text.Unprintable

/-!
# Texts shown in messages

A text is shown between quotes, with escapes for everything that would not be seen: controls,
blanks other than the space, unassigned characters, and marks that change the character before
them.
-/

namespace DirectImports.Text

/-- The character is shown as it is. -/
def isPrintable (c : Char) : Bool :=
  if c.toNat < 0x80 then 0x20 ≤ c.toNat && c.toNat < 0x7F
  else !CodeRange.holds unprintableRanges c.toNat && !CodeRange.holds extenderRanges c.toNat

/-- How a character is shown. -/
def shownChar (c : Char) : List Char :=
  if c = '"' ∨ c = '\\' then ['\\', c]
  else if c = '\t' then ['\\', 't']
  else if c = '\r' then ['\\', 'r']
  else if c = '\n' then ['\\', 'n']
  else if c.toNat = 0 then ['\\', '0']
  else if isPrintable c then [c]
  else ['\\', 'u', '\x7b'] ++ Nat.toDigits 16 c.toNat ++ ['\x7d']

/-- A text between quotes. -/
def shown (text : String) : String :=
  String.ofList ('"' :: text.toList.flatMap shownChar ++ ['"'])

end DirectImports.Text
