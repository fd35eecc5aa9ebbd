/-!
# Maps of exports

A map from the names that a barrel exports to the places where they are defined, in the order in
which the names were first found. A later record for a name replaces the earlier one and leaves
the name where it is.
-/

namespace DirectImports

/-- Where an exported name is defined. -/
structure ExportRecord where
  /-- the defining module seen from the barrel: a segment, empty for the barrel's own index
  file, or the name of a package -/
  segment : String
  /-- the name at the defining module, if it is another one -/
  sourceName : Option String
deriving DecidableEq, Repr

/-- The name to import from the defining module. -/
def ExportRecord.importName (record : ExportRecord) (exported : String) : String :=
  record.sourceName.getD exported

/-- Exported names with their records, in the order of their discovery. -/
abbrev ExportMap := List (String × ExportRecord)

namespace ExportMap

/-- The record of a name. -/
def get? (name : String) : ExportMap → Option ExportRecord
  | [] => none
  | (key, record) :: rest => if key = name then some record else get? name rest

/-- Sets the record of a name: in its place if the name is there, else at the end. -/
def insert (name : String) (record : ExportRecord) : ExportMap → ExportMap
  | [] => [(name, record)]
  | (key, old) :: rest =>
    if key = name then (key, record) :: rest else (key, old) :: insert name record rest

/-- The names, in order. -/
def names (map : ExportMap) : List String := map.map (·.1)

/-- After an insertion the name has the new record, and every other name the one it had. -/
theorem get?_insert (map : ExportMap) (name other : String) (record : ExportRecord) :
    get? other (insert name record map) = if name = other then some record else get? other map := by
  induction map with
  | nil => simp [insert, get?]
  | cons entry rest ih =>
    obtain ⟨key, old⟩ := entry
    by_cases hkey : key = name
    · subst hkey
      by_cases hother : key = other <;> simp [insert, get?, hother]
    · by_cases hother : key = other
      · subst hother
        simp [insert, get?, hkey, Ne.symm hkey]
      · simp [insert, get?, hkey, hother, ih]

/-- The names of a map with one more entry in front. -/
theorem names_cons (entry : String × ExportRecord) (rest : ExportMap) :
    names (entry :: rest) = entry.1 :: names rest := rfl

/-- A name that was there keeps its place, and a new one comes last. -/
theorem names_insert (map : ExportMap) (name : String) (record : ExportRecord) :
    names (insert name record map) = if name ∈ names map then names map else names map ++ [name] := by
  induction map with
  | nil => simp [insert, names]
  | cons entry rest ih =>
    obtain ⟨key, old⟩ := entry
    by_cases hkey : key = name
    · simp [insert, names_cons, hkey]
    · have hne : ¬name = key := fun h => hkey h.symm
      rw [insert, if_neg hkey, names_cons, names_cons, ih]
      by_cases hmem : name ∈ names rest <;> simp [hne, hmem]

end ExportMap

end DirectImports
