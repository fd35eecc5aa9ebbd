import DirectImports.FileSystem.Disk
import DirectImports.Text.Sorting

/-!
# Walking a disk

A walk comes to a path and to everything below it. In a directory it goes through the names in
their order, and comes to each before it goes on below it. Names that are not kept are passed over
together with all that stands below them; the path where the walk begins is always kept. Links are
not followed, except for one at which the walk begins.
-/

namespace DirectImports

/-- The names directly in a directory end the locations there. -/
theorem Location.nameIn?_eq_some_iff {dir location : Location} {name : String} :
    dir.nameIn? location = some name ↔ location = dir ++ [name] := by
  unfold nameIn?
  constructor
  · intro h
    split at h
    · next hin =>
      obtain ⟨hlength, hprefix⟩ := hin
      obtain ⟨rest, rfl⟩ := List.isPrefixOf_iff_prefix.mp hprefix
      rw [List.length_append, Nat.add_left_cancel_iff] at hlength
      obtain ⟨last, rfl⟩ := List.length_eq_one_iff.mp hlength
      rw [List.getLast?_concat] at h
      cases h
      rfl
    · cases h
  · rintro rfl
    have hprefix : dir.isPrefixOf (dir ++ [name]) = true :=
      List.isPrefixOf_iff_prefix.mpr (List.prefix_append ..)
    rw [if_pos ⟨List.length_append, hprefix⟩, List.getLast?_concat]

/-- Something that a walk comes to. -/
structure Visited where
  path : Path
  /-- what stands there, links not followed -/
  node : Node
deriving DecidableEq, Repr

namespace Disk

variable {disk : Disk} {dir : Location} {name : String}

/-- The names in a directory, in order. -/
def sortedNames (disk : Disk) (dir : Location) : List String :=
  Text.sorted (disk.nodes.children dir)

theorem mem_sortedNames : name ∈ disk.sortedNames dir ↔ dir ++ [name] ∈ disk.nodes.map (·.1) := by
  rw [sortedNames, Text.mem_sorted, Table.children, List.mem_filterMap, List.mem_map]
  simp only [Location.nameIn?_eq_some_iff]

/-! ## How deep directories are nested -/

/-- How many names the longest location has. -/
def height (disk : Disk) : Nat :=
  disk.nodes.foldr (fun entry bound => max entry.1.length bound) 0

theorem length_le_height {entry : Location × Node} (h : entry ∈ disk.nodes) :
    entry.1.length ≤ disk.height := by
  obtain ⟨nodes, cwd⟩ := disk
  show _ ≤ nodes.foldr _ 0
  induction nodes with
  | nil => cases h
  | cons first rest ih =>
    rw [List.foldr_cons]
    rcases List.mem_cons.mp h with rfl | hrest
    · exact Nat.le_max_left ..
    · exact Nat.le_trans (ih hrest) (Nat.le_max_right ..)

/-- What is in a directory has less below it than the directory. -/
theorem height_sub_lt (h : name ∈ disk.sortedNames dir) :
    disk.height - (dir ++ [name]).length < disk.height - dir.length := by
  obtain ⟨entry, hentry, hlocation⟩ := List.mem_map.mp (mem_sortedNames.mp h)
  have hle := length_le_height hentry
  rw [hlocation] at hle
  rw [List.length_append, List.length_singleton] at hle ⊢
  omega

/-! ## Walks -/

/-- What a walk comes to below a directory; `path` is the path of the directory. -/
def walkBelow (disk : Disk) (keep : String → Bool) (dir : Location) (path : Path) : List Visited :=
  (disk.sortedNames dir).attach.flatMap fun ⟨name, _⟩ =>
    if keep name then
      match disk.node? (dir ++ [name]) with
      | none => []
      | some node =>
        let below :=
          if node = .directory then disk.walkBelow keep (dir ++ [name]) (path.join name) else []
        ⟨path.join name, node⟩ :: below
    else []
termination_by disk.height - dir.length
decreasing_by exact height_sub_lt ‹_›

/-- What a walk comes to that begins at a path. -/
def walk (disk : Disk) (keep : String → Bool) (root : Path) : Except DiskError (List Visited) := do
  let (location, found) ← disk.locate root
  let node ← disk.linkKind root
  let below := if found = .directory then disk.walkBelow keep location root else []
  return ⟨root, node⟩ :: below

end Disk

end DirectImports
