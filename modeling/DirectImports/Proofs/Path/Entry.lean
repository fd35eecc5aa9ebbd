import DirectImports.Proofs.Path.Segment
import DirectImports.Proofs.Path.Tidy

/-!
# Names in a directory

What stands in a directory has the directory's path and a name behind it. Where the directory is
absolute and in normal form, so is what stands in it (`IsNormal.join_name`), its parent is the
directory (`parent?_join_name`), and different names give different paths (`join_name_injective`).
In the other direction every such path with a parent is a name in it
(`IsNormal.exists_eq_join_name`).
-/

namespace DirectImports

namespace Path

variable {dir : Path} {name other : String}

theorem IsNormal.isTidy (h : dir.IsNormal) : dir.IsTidy :=
  h.2 ▸ dir.isTidy_clean

theorem IsTidy.join_name (hdir : dir.IsTidy) (h : (Component.name name).IsStep) :
    (dir.join name).IsTidy :=
  hdir.join_step (c := .name name) h

/-- A text without slashes is a name, unless it is empty, `.` or `..`. -/
theorem isStep_or_dots (hne : name ≠ "") (hslash : '/' ∉ name.toList) :
    (Component.name name).IsStep ∨ name = "." ∨ name = ".." := by
  by_cases hdot : name = "."
  · exact Or.inr (Or.inl hdot)
  · by_cases hdots : name = ".."
    · exact Or.inr (Or.inr hdots)
    · refine Or.inl ⟨hslash, ?_⟩
      have hnil : name.toList ≠ [] := by simpa using hne
      have hone : name.toList ≠ ['.'] := fun h => hdot (String.toList_injective h)
      have htwo : name.toList ≠ ['.', '.'] := fun h => hdots (String.toList_injective h)
      show componentOfPiece? name.toList = some (.name name)
      unfold componentOfPiece?
      split
      · contradiction
      · contradiction
      · contradiction
      · rw [String.ofList_toList]

theorem components_join_name (h : (Component.name name).IsStep) :
    (dir.join name).components = dir.components ++ [.name name] :=
  components_join_step (c := .name name) h

theorem length_components_join_name (h : (Component.name name).IsStep) :
    (dir.join name).components.length = dir.components.length + 1 := by
  rw [components_join_name h, List.length_append, List.length_singleton]

theorem join_name_ne (h : (Component.name name).IsStep) : dir.join name ≠ dir := by
  intro heq
  have hlength : (dir.join name).components.length = dir.components.length + 1 :=
    length_components_join_name h
  rw [heq] at hlength
  omega

theorem join_name_injective (h : (Component.name name).IsStep)
    (hother : (Component.name other).IsStep) (heq : dir.join name = dir.join other) :
    name = other := by
  have hcomponents := congrArg components heq
  rw [components_join_name h, components_join_name hother] at hcomponents
  have hlast := List.append_cancel_left hcomponents
  simpa using hlast

/-- A name below a directory is its place. -/
theorem joinDir_name (hdir : dir.IsNormal) (h : (Component.name name).IsStep) :
    dir.joinDir name = dir.join name := by
  refine (isTidy_clean _).eq_of_same (hdir.isTidy.join_name h) ?_
  have hsteps : steps name.toList = [.name name] := steps_text (c := .name name) h
  have hstack : (dir.join name).stack = .name name :: dir.stack := by
    have hrelative : IsRelative name := isRelative_text (c := .name name) h
    rw [stack_join dir hrelative, hsteps]
    rfl
  show (dir.join name).clean.components = (dir.join name).components
  rw [components_clean, hstack, if_neg (by simp), components_join_name h, hdir.isRooted.stack]
  simp

theorem joinDir_current (hdir : dir.IsNormal) : dir.joinDir "." = dir := by
  have hclean : dir.joinDir "." = dir.clean := by
    rw [← clean_joinDir]
    refine clean_eq_of_stack ?_
    rw [stack_joinDir dir (by decide)]
    rfl
  rw [hclean, hdir.2]

theorem length_components_joinDir_parent_lt (hdir : dir.IsNormal)
    (hroot : dir.components ≠ [.root]) :
    (dir.joinDir "..").components.length < dir.components.length := by
  rw [components_joinDir_parent hdir hroot, List.length_dropLast, components_of_isAbsolute hdir.1,
    List.length_cons]
  omega

theorem fileName?_join_name (h : (Component.name name).IsStep) :
    (dir.join name).fileName? = some name := by
  rw [fileName?, components_join_name h, List.getLast?_concat]

theorem parent?_join_name (hdir : dir.IsNormal) (h : (Component.name name).IsStep) :
    (dir.join name).parent? = some dir := by
  have hcomponents : (dir.join name).components = dir.components ++ [.name name] :=
    components_join_name h
  cases hparent : (dir.join name).parent? with
  | none =>
    rcases (parent?_eq_none_iff _).mp hparent with hnil | hroot
    · rw [hcomponents] at hnil
      simp at hnil
    · rw [hcomponents, components_of_isAbsolute hdir.1] at hroot
      simp at hroot
  | some parent =>
    have htidy : (dir.join name).IsTidy := hdir.isTidy.join_name h
    have hsame : parent.Same dir := by
      show parent.components = dir.components
      rw [components_parent? hparent, hcomponents, List.dropLast_concat]
    rw [(htidy.parent? hparent).eq_of_same hdir.isTidy hsame]

/-! ## Normal forms -/

theorem IsRooted.isNormal (h : dir.IsRooted) (htidy : dir.IsTidy) : dir.IsNormal := by
  refine ⟨h.isAbsolute, (isTidy_clean dir).eq_of_same htidy ?_⟩
  show dir.clean.components = dir.components
  have hne : dir.stack ≠ [] := by
    rw [h.stack, components_of_isAbsolute h.isAbsolute]
    simp
  rw [components_clean, if_neg hne, h.stack, List.reverse_reverse]

/-- What stands in a directory is in normal form if the directory is. -/
theorem IsNormal.join_name (hdir : dir.IsNormal) (h : (Component.name name).IsStep) :
    (dir.join name).IsNormal :=
  (hdir.isRooted.join_name h).isNormal (hdir.isTidy.join_name h)

/-- The directory above a normal form is one. -/
theorem IsNormal.parent? {path : Path} (h : path.IsNormal) (hparent : path.parent? = some dir) :
    dir.IsNormal :=
  (h.isRooted.parent? hparent).isNormal (h.isTidy.parent? hparent)

/-- A normal form with a parent is a name in it. -/
theorem IsNormal.exists_eq_join_name {path : Path} (h : path.IsNormal)
    (hparent : path.parent? = some dir) :
    ∃ name, (Component.name name).IsStep ∧ path = dir.join name := by
  obtain ⟨names, hnames, hcomponents⟩ := h.isRooted
  have habove := components_parent? hparent
  rcases List.eq_nil_or_concat names with rfl | ⟨front, last, rfl⟩
  · rw [(parent?_eq_none_iff path).mpr (Or.inr hcomponents)] at hparent
    cases hparent
  · obtain ⟨hname, hstep⟩ := hnames last (by simp)
    cases last with
    | name name =>
      refine ⟨name, hstep, h.isTidy.eq_of_same ((h.parent? hparent).isTidy.join_name hstep) ?_⟩
      show path.components = (dir.join name).components
      rw [components_join_name hstep, habove, hcomponents, List.concat_eq_append,
        ← List.cons_append, List.dropLast_concat]
    | root => cases hname
    | current => cases hname
    | parent => cases hname

end Path

end DirectImports
