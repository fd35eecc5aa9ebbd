/-!
# Sorting texts

Texts are ordered by their characters. A list of texts is sorted by insertion, and holds every text
once in the end.
-/

namespace DirectImports.Text

/-- Puts a text into an increasing list, unless it is there already. -/
def insertSorted (text : String) : List String → List String
  | [] => [text]
  | first :: rest =>
    if text = first then first :: rest
    else if text < first then text :: first :: rest
    else first :: insertSorted text rest

/-- The texts of a list in increasing order. -/
def sorted (texts : List String) : List String :=
  texts.foldr insertSorted []

/-- Putting a text into a list adds that text and no other. -/
theorem mem_insertSorted (text other : String) (texts : List String) :
    other ∈ insertSorted text texts ↔ other = text ∨ other ∈ texts := by
  induction texts with
  | nil => simp [insertSorted]
  | cons first rest ih =>
    rw [insertSorted]
    split
    · next h => simp [h]
    · split
      · simp
      · rw [List.mem_cons, ih, List.mem_cons]
        exact or_left_comm

/-- Sorting loses nothing and adds nothing. -/
theorem mem_sorted {text : String} {texts : List String} : text ∈ sorted texts ↔ text ∈ texts := by
  induction texts with
  | nil => exact Iff.rfl
  | cons first rest ih =>
    rw [sorted, List.foldr_cons, mem_insertSorted, ← sorted, ih, List.mem_cons]

/-- An increasing list stays one. -/
theorem pairwise_insertSorted (text : String) {texts : List String} (h : texts.Pairwise (· < ·)) :
    (insertSorted text texts).Pairwise (· < ·) := by
  induction texts with
  | nil => exact List.pairwise_singleton ..
  | cons first rest ih =>
    obtain ⟨hfirst, hrest⟩ := List.pairwise_cons.mp h
    rw [insertSorted]
    split
    · exact h
    · next hne =>
      split
      · next hlt =>
        refine List.pairwise_cons.mpr ⟨fun other hother => ?_, h⟩
        rcases List.mem_cons.mp hother with rfl | hin
        · exact hlt
        · exact String.lt_trans hlt (hfirst other hin)
      · next hge =>
        refine List.pairwise_cons.mpr ⟨fun other hother => ?_, ih hrest⟩
        rcases (mem_insertSorted text other rest).mp hother with rfl | hin
        · -- neither text comes after the other only if they are the same
          refine Decidable.byContradiction fun hnot => hne ?_
          exact String.le_antisymm (String.not_lt.mp hnot) (String.not_lt.mp hge)
        · exact hfirst other hin

/-- A sorted list is strictly increasing. -/
theorem pairwise_sorted (texts : List String) : (sorted texts).Pairwise (· < ·) := by
  induction texts with
  | nil => exact List.Pairwise.nil
  | cons first rest ih => exact pairwise_insertSorted first ih

end DirectImports.Text
