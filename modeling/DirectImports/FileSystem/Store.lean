import DirectImports.FileSystem.Basic

/-!
# Stores

A store holds files and can be changed. What its readers see at a moment is a `FileSystem`.
-/

namespace DirectImports

/-- Something that holds files. -/
class Store (σ : Type) where
  /-- what readers see -/
  view : σ → FileSystem
  /-- puts a text into a file, which is created if need be -/
  write : σ → Path → String → Except FileError σ
  /-- removes a file or a directory with all that is in it -/
  remove : σ → Path → σ

/-- Where something stands: the names from the root down to it. -/
abbrev Location := List String

namespace Location

/-- The location of a text read by itself: `.` and empty pieces count for nothing, and `..`
removes the name before it. -/
def ofText (text : String) : Location :=
  ((Path.pieces text.toList).foldl (fun (stack : List String) piece =>
    if piece = [] ∨ piece = ['.'] then stack
    else if piece = ['.', '.'] then stack.tail
    else String.ofList piece :: stack) []).reverse

/-- The path of a location. -/
def toPath (location : Location) : Path :=
  ⟨"/" ++ String.intercalate "/" location⟩

/-- The locations on the way from the root, the root included and the location itself not. -/
def ancestors (location : Location) : List Location :=
  (List.range location.length).map location.take

/-- The name below a directory, if the location is directly in it. -/
def nameIn? (dir location : Location) : Option String :=
  if location.length = dir.length + 1 ∧ dir.isPrefixOf location then location.getLast? else none

end Location

/-! ## Tables of locations -/

/-- What stands at some locations, in the order of creation. -/
abbrev Table (α : Type) := List (Location × α)

namespace Table

/-- What stands at a location. -/
def get? (table : Table α) (location : Location) : Option α :=
  (table.find? fun entry => decide (entry.1 = location)).map (·.2)

/-- Puts something at a location: in the place of what was there, else at the end. -/
def insert (location : Location) (value : α) : Table α → Table α
  | [] => [(location, value)]
  | (key, old) :: rest =>
    if key = location then (key, value) :: rest else (key, old) :: insert location value rest

/-- After an insertion the location holds the new thing, and every other one what it held. -/
theorem get?_insert (table : Table α) (location other : Location) (value : α) :
    (table.insert location value).get? other
      = if location = other then some value else table.get? other := by
  induction table with
  | nil => by_cases h : location = other <;> simp [insert, get?, h]
  | cons entry rest ih =>
    obtain ⟨key, old⟩ := entry
    simp only [get?] at ih
    by_cases hkey : key = location
    · subst hkey
      by_cases hother : key = other <;> simp [insert, get?, hother]
    · by_cases hother : key = other
      · subst hother
        simp [insert, get?, hkey, Ne.symm hkey]
      · simp [insert, get?, hkey, hother, ih]

/-- Puts something at a location unless something is there. -/
def insertNew (location : Location) (value : α) (table : Table α) : Table α :=
  if (table.get? location).isSome then table else table.insert location value

/-- Puts something at a location, after creating the directories above it. -/
def insertDeep (directory : α) (location : Location) (value : α) (table : Table α) : Table α :=
  (location.ancestors.foldl (fun table above => table.insertNew above directory) table).insert
    location value

/-- Removes a location and all below it. -/
def erase (location : Location) (table : Table α) : Table α :=
  table.filter fun entry => !location.isPrefixOf entry.1

/-- The names directly in a directory. -/
def children (dir : Location) (table : Table α) : List String :=
  table.filterMap fun entry => dir.nameIn? entry.1

end Table

end DirectImports
