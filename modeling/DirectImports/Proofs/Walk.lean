import DirectImports.FileSystem.Walk
import DirectImports.Proofs.Disk

/-!
# What a walk comes to

Whatever a walk comes to below a directory stands there and is reached by names that are all kept
(`Disk.exists_names_of_mem_walkBelow`), by induction on the walk. On a disk that is a tree nothing
else is needed to be reached: by induction on the names, every one of them but the last leads to a
directory, which the walk enters (`Disk.mem_walkBelow_of_node?`).
-/

namespace DirectImports

/-! ## Going down -/

/-- The path reached by going down through names. -/
def Path.below (path : Path) (names : List String) : Path := names.foldl Path.join path

namespace Path

variable {path : Path} {names : List String}

/-- Going down through plain names keeps a path in normal form. -/
theorem IsNormal.below (hpath : path.IsNormal)
    (hnames : ∀ name ∈ names, (Component.name name).IsStep) : (path.below names).IsNormal := by
  induction names generalizing path with
  | nil => exact hpath
  | cons name rest ih =>
    exact ih (hpath.join_name (hnames name List.mem_cons_self))
      fun other hother => hnames other (List.mem_cons_of_mem _ hother)

theorem components_below (hnames : ∀ name ∈ names, (Component.name name).IsStep) :
    (path.below names).components = path.components ++ names.map .name := by
  induction names generalizing path with
  | nil => exact (List.append_nil _).symm
  | cons name rest ih =>
    have hrest : ∀ other ∈ rest, (Component.name other).IsStep :=
      fun other hother => hnames other (List.mem_cons_of_mem _ hother)
    show ((path.join name).below rest).components = _
    rw [ih hrest, components_join_name (hnames name List.mem_cons_self), List.map_cons,
      List.append_assoc]
    rfl

end Path

namespace Disk

variable {disk : Disk} {keep : String → Bool} {dir location : Location} {path root : Path}
  {node : Node} {visited : Visited}

/-- The names of what stands on a disk of plain names are plain. -/
theorem isStep_of_node? (hdisk : disk.nodes.IsPlain) {names : List String}
    (hnode : disk.node? (dir ++ names) = some node) :
    ∀ name ∈ names, (Component.name name).IsStep := by
  intro name hname
  have hne : dir ++ names ≠ [] := by
    intro hnil
    rw [(List.append_eq_nil_iff.mp hnil).2] at hname
    cases hname
  exact hdisk _ (mem_nodes_of_node? hnode hne) name (List.mem_append_right _ hname)

/-! ## Below a directory -/

/-- Something that stands in a directory is one of its names. -/
theorem mem_sortedNames_of_node? {name : String} (h : disk.node? (dir ++ [name]) = some node) :
    name ∈ disk.sortedNames dir :=
  mem_sortedNames.mpr (List.mem_map_of_mem (mem_nodes_of_node? h (by simp)))

/-- One step of a walk: it comes to the names that are kept, and goes on below the directories. -/
theorem mem_walkBelow_iff_step : visited ∈ disk.walkBelow keep dir path
    ↔ ∃ name node, disk.node? (dir ++ [name]) = some node ∧ keep name = true
      ∧ (visited = ⟨path.join name, node⟩
        ∨ node = .directory ∧ visited ∈ disk.walkBelow keep (dir ++ [name]) (path.join name)) := by
  rw [walkBelow, List.mem_flatMap]
  constructor
  · rintro ⟨⟨name, hname⟩, -, hvisited⟩
    dsimp only at hvisited
    split at hvisited
    · next hkeep =>
      split at hvisited
      · cases hvisited
      · next node hnode =>
        refine ⟨name, node, hnode, hkeep, ?_⟩
        rcases List.mem_cons.mp hvisited with rfl | hbelow
        · exact .inl rfl
        · split at hbelow
          · next hdirectory => exact .inr ⟨hdirectory, hbelow⟩
          · cases hbelow
    · cases hvisited
  · rintro ⟨name, node, hnode, hkeep, hvisited⟩
    refine ⟨⟨name, mem_sortedNames_of_node? hnode⟩, List.mem_attach _ _, ?_⟩
    dsimp only
    rw [if_pos hkeep, hnode]
    rcases hvisited with rfl | ⟨rfl, hbelow⟩
    · exact List.mem_cons_self
    · exact List.mem_cons_of_mem _ (by rwa [if_pos rfl])

/-- Whatever a walk comes to stands below the directory, and all names down to it are kept. -/
theorem exists_names_of_mem_walkBelow (h : visited ∈ disk.walkBelow keep dir path) :
    ∃ names, names ≠ [] ∧ (∀ name ∈ names, keep name = true)
      ∧ disk.node? (dir ++ names) = some visited.node ∧ visited.path = path.below names := by
  induction dir, path using walkBelow.induct disk with
  | case1 dir path ih =>
    obtain ⟨name, node, hnode, hkeep, hvisited⟩ := mem_walkBelow_iff_step.mp h
    rcases hvisited with rfl | ⟨-, hbelow⟩
    · exact ⟨[name], by simp, by simpa using hkeep, hnode, rfl⟩
    · obtain ⟨rest, -, hrest, hlast, hpath⟩ := ih name (mem_sortedNames_of_node? hnode) hbelow
      refine ⟨name :: rest, by simp, List.forall_mem_cons.mpr ⟨hkeep, hrest⟩, ?_, hpath⟩
      rw [List.append_cons]
      exact hlast

/-- On a tree, a walk comes to everything below the directory whose names are all kept. -/
theorem mem_walkBelow_of_node? (htree : disk.IsTree) {names : List String} (hne : names ≠ [])
    (hkeep : ∀ name ∈ names, keep name = true) (hnode : disk.node? (dir ++ names) = some node) :
    ⟨path.below names, node⟩ ∈ disk.walkBelow keep dir path := by
  induction names generalizing dir path with
  | nil => exact absurd rfl hne
  | cons name rest ih =>
    obtain ⟨hname, hrest⟩ := List.forall_mem_cons.mp hkeep
    rw [List.append_cons] at hnode
    rw [mem_walkBelow_iff_step]
    by_cases hend : rest = []
    · subst hend
      rw [List.append_nil] at hnode
      exact ⟨name, node, hnode, hname, .inl rfl⟩
    · exact ⟨name, .directory, htree.node?_of_append hend hnode, hname,
        .inr ⟨rfl, ih hend hrest hnode⟩⟩

/-! ## From a path -/

/-- A walk that begins at a directory. -/
theorem walk_of_directory (hlocate : disk.locate root = .ok (location, .directory))
    (hkind : disk.linkKind root = .ok node) :
    disk.walk keep root = .ok (⟨root, node⟩ :: disk.walkBelow keep location root) := by
  unfold walk
  rw [hlocate, hkind]
  rfl

/-- A walk that begins at a file comes to nothing else. -/
theorem walk_of_file {text : Option String}
    (hlocate : disk.locate root = .ok (location, .file text))
    (hkind : disk.linkKind root = .ok node) : disk.walk keep root = .ok [⟨root, node⟩] := by
  unfold walk
  rw [hlocate, hkind]
  rfl

/-- All that a walk comes to is where it begins, or is below that. -/
theorem exists_names_of_walk {found : List Visited} (h : disk.walk keep root = .ok found)
    (hvisited : visited ∈ found) :
    ∃ location names, visited.path = root.below names
      ∧ (names = [] ∨ disk.node? (location ++ names) = some visited.node) := by
  unfold walk at h
  cases hlocate : disk.locate root with
  | error error => rw [hlocate] at h; cases h
  | ok place =>
    obtain ⟨location, node⟩ := place
    cases hkind : disk.linkKind root with
    | error error => rw [hlocate, hkind] at h; cases h
    | ok first =>
      rw [hlocate, hkind] at h
      cases h
      rcases List.mem_cons.mp hvisited with rfl | hbelow
      · exact ⟨location, [], rfl, .inl rfl⟩
      · split at hbelow
        · obtain ⟨names, -, -, hnode, hpath⟩ := exists_names_of_mem_walkBelow hbelow
          exact ⟨location, names, hpath, .inr hnode⟩
        · cases hbelow

/-- On a disk of plain names, a walk that begins at a normal form comes to normal forms only. -/
theorem isNormal_of_walk (hdisk : disk.nodes.IsPlain) (hroot : root.IsNormal)
    {found : List Visited} (h : disk.walk keep root = .ok found) (hvisited : visited ∈ found) :
    visited.path.IsNormal := by
  obtain ⟨location, names, hpath, hnames⟩ := exists_names_of_walk h hvisited
  rw [hpath]
  rcases hnames with rfl | hnode
  · exact hroot
  · exact hroot.below (isStep_of_node? hdisk hnode)

end Disk

end DirectImports
