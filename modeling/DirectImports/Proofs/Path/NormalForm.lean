import DirectImports.Proofs.Path.Climb

/-!
# Segments are normal forms

Texts that lead from directory to directory can be composed first, and then they lead to the same
place, however many there are and however they are grouped (`Specifier.joinDir_foldl_join`). What
results is a normal form: two composed segments that lead to the same place from every absolute
directory are the same text (`Specifier.joinDir_same_iff_join_eq`).

A relative path in normal form goes up some directories and then down through names. Below the root
stand directories all of whose names are `a`, and others all of whose names are `b`, as deep as one
likes (`Path.column`). From deep enough inside such a column, a path leads to what it leaves of the
column and its own names below; of two paths that climb differently, one would have to make up for
the difference with names that are `a` and also `b`.
-/

namespace DirectImports

/-- Two lists that go on after copies of one value, and alike after copies of another, go on after
equally many copies. -/
theorem replicate_append_cancel {a b : α} (hne : a ≠ b) {k n : Nat} {xs ys : List α}
    (ha : List.replicate k a ++ xs = List.replicate n a ++ ys)
    (hb : List.replicate k b ++ xs = List.replicate n b ++ ys) : k = n ∧ xs = ys := by
  induction k generalizing n with
  | zero =>
    cases n with
    | zero => exact ⟨rfl, ha⟩
    | succ n => exact absurd (List.cons.inj (ha.symm.trans hb)).1 hne
  | succ k ih =>
    cases n with
    | zero => exact absurd (List.cons.inj (ha.trans hb.symm)).1 hne
    | succ n =>
      obtain ⟨hk, hrest⟩ := ih (List.cons.inj ha).2 (List.cons.inj hb).2
      exact ⟨congrArg _ hk, hrest⟩

namespace Path

theorem root_not_mem_components {path : Path} (h : path.isAbsolute = false) :
    Component.root ∉ path.components := by
  rw [components_eq, List.mem_append, not_or]
  refine ⟨?_, root_not_mem_steps _⟩
  cases hanchor : anchorOf path.text.toList with
  | root =>
    rw [(isAbsolute_iff_anchorOf path).mpr hanchor] at h
    cases h
  | current => simp [Anchor.components]
  | none => simp [Anchor.components]

/-! ## Directories that tell paths apart -/

/-- The directory so deep below the root with the same name at each level. -/
def column (name : String) (depth : Nat) : Path :=
  ofComponents (.root :: List.replicate depth (.name name))

variable {name : String}

theorem components_column (h : (Component.name name).IsStep) (depth : Nat) :
    (column name depth).components = .root :: List.replicate depth (.name name) :=
  components_ofComponents .root fun c hc => by rw [List.eq_of_mem_replicate hc]; exact h

theorem isRooted_column (h : (Component.name name).IsStep) (depth : Nat) :
    (column name depth).IsRooted := by
  refine ⟨_, fun c hc => ?_, components_column h depth⟩
  rw [List.eq_of_mem_replicate hc]
  exact ⟨rfl, h⟩

/-- From inside a column a path leads to what it leaves of the column, and its names below. -/
theorem stack_joinDir_column {path : Path} (hclean : path.clean = path)
    (hrel : path.isAbsolute = false) (h : (Component.name name).IsStep) (depth : Nat) :
    ((column name depth).joinDir (Specifier.ofClean path)).stack.reverse
      = .root :: (List.replicate (depth - climb path.components) (.name name)
          ++ descent path.components) := by
  obtain ⟨hway, hnames⟩ := cleanComponents_eq (root_not_mem_components hrel)
  have hcolumn : (column name depth).stack
      = List.replicate depth (.name name) ++ [.root] := by
    rw [(isRooted_column h depth).stack, components_column h, List.reverse_cons,
      List.reverse_replicate]
  have hname : ∀ c ∈ List.replicate depth (Component.name name), c.isName = true := fun c hc => by
    rw [List.eq_of_mem_replicate hc]; rfl
  rw [Specifier.stack_joinDir_ofClean _ hclean, if_neg (by simp [hrel]),
    ← cleanComponents_components, hway, List.foldl_append, hcolumn, foldl_cleanStep_climb hname,
    foldl_cleanStep_names hnames, List.drop_replicate]
  simp

theorem isStep_a : (Component.name "a").IsStep := ⟨by decide, by decide⟩

theorem isStep_b : (Component.name "b").IsStep := ⟨by decide, by decide⟩

/-- No relative path leads to one place from everywhere. -/
theorem not_constant_of_not_isAbsolute {path : Path} (hclean : path.clean = path)
    (hrel : path.isAbsolute = false) (place : Path) :
    ¬∀ dir : Path, dir.isAbsolute = true → dir.joinDir (Specifier.ofClean path) = place := by
  intro h
  have hplace {name : String} (hstep : (Component.name name).IsStep) :
      place.stack.reverse = .root :: .name name :: descent path.components := by
    rw [← h _ (isRooted_column hstep (climb path.components + 1)).isAbsolute,
      stack_joinDir_column hclean hrel hstep, Nat.add_sub_cancel_left]
    rfl
  have hboth := (hplace isStep_a).symm.trans (hplace isStep_b)
  simp at hboth

/-- An absolute path leads to itself from everywhere. -/
theorem joinDir_ofClean_of_isAbsolute (dir : Path) {path : Path} (hclean : path.clean = path)
    (habs : path.isAbsolute = true) : dir.joinDir (Specifier.ofClean path) = path := by
  rw [← clean_joinDir]
  refine (clean_eq_of_stack ?_).trans hclean
  rw [Specifier.stack_joinDir_ofClean _ hclean, if_pos habs]

variable {path other : Path}

/-- Relative paths that lead to the same place from every directory have the same stack. -/
theorem stack_eq_of_joinDir_ofClean (hclean : path.clean = path) (hother : other.clean = other)
    (hrel : path.isAbsolute = false) (hrel' : other.isAbsolute = false)
    (h : ∀ dir : Path, dir.isAbsolute = true →
      dir.joinDir (Specifier.ofClean path) = dir.joinDir (Specifier.ofClean other)) :
    path.stack = other.stack := by
  -- deep enough for both, each leaves as much of the column as the other one climbs
  have hplace {name : String} (hstep : (Component.name name).IsStep) :
      List.replicate (climb other.components) (.name name) ++ descent path.components
        = List.replicate (climb path.components) (.name name) ++ descent other.components := by
    have hsame := congrArg (fun place => place.stack.reverse)
      (h _ (isRooted_column hstep (climb path.components + climb other.components)).isAbsolute)
    simp only [stack_joinDir_column hclean hrel hstep, stack_joinDir_column hother hrel' hstep,
      Nat.add_sub_cancel_left, Nat.add_sub_cancel] at hsame
    exact (List.cons.inj hsame).2
  obtain ⟨hclimb, hdescent⟩ :=
    replicate_append_cancel (by decide) (hplace isStep_a) (hplace isStep_b)
  rw [← List.reverse_inj, ← cleanComponents_components, ← cleanComponents_components,
    (cleanComponents_eq (root_not_mem_components hrel)).1,
    (cleanComponents_eq (root_not_mem_components hrel')).1, hclimb, hdescent]

/-- Paths in normal form that lead to the same place from every directory are one. -/
theorem eq_of_joinDir_ofClean (hclean : path.clean = path) (hother : other.clean = other)
    (h : ∀ dir : Path, dir.isAbsolute = true →
      dir.joinDir (Specifier.ofClean path) = dir.joinDir (Specifier.ofClean other)) :
    path = other := by
  cases habs : path.isAbsolute <;> cases habs' : other.isAbsolute
  case false.false =>
    rw [← hclean, ← hother]
    exact clean_eq_of_stack (stack_eq_of_joinDir_ofClean hclean hother habs habs' h)
  case true.true =>
    have hsame := h _ (isRooted_column isStep_a 0).isAbsolute
    rw [joinDir_ofClean_of_isAbsolute _ hclean habs,
      joinDir_ofClean_of_isAbsolute _ hother habs'] at hsame
    exact hsame
  case true.false =>
    refine absurd (fun dir hdir => ?_) (not_constant_of_not_isAbsolute hother habs' path)
    rw [← h dir hdir, joinDir_ofClean_of_isAbsolute dir hclean habs]
  case false.true =>
    refine absurd (fun dir hdir => ?_) (not_constant_of_not_isAbsolute hclean habs other)
    rw [h dir hdir, joinDir_ofClean_of_isAbsolute dir hother habs']

end Path

namespace Specifier

open DirectImports.Path

/-! ## Composed segments -/

/-- Composed segments are told apart by where they lead. -/
theorem join_eq_of_joinDir {base specifier base' specifier' : String}
    (h : ∀ dir : Path, dir.isAbsolute = true →
      dir.joinDir (join base specifier) = dir.joinDir (join base' specifier')) :
    join base specifier = join base' specifier' := by
  unfold join
  rw [eq_of_joinDir_ofClean (clean_clean _) (clean_clean _) h]

theorem join_assoc (base specifier next : String) :
    join (join base specifier) next = join base (join specifier next) := by
  refine join_eq_of_joinDir fun dir _ => ?_
  simp only [joinDir_join]

theorem empty_join_join (base specifier : String) :
    join "" (join base specifier) = join base specifier := by
  refine join_eq_of_joinDir fun dir _ => ?_
  have hstack : (dir.joinDir "").stack = dir.stack := stack_joinDir dir (by decide)
  rw [joinDir_join dir "", joinDir_congr hstack]

/-- Going to a composed segment is going to its parts one after the other, from any directory and
along any chain of texts; how they are grouped does not matter. -/
theorem joinDir_foldl_join (dir : Path) (base specifier : String) :
    dir.joinDir (join base specifier) = (dir.joinDir base).joinDir specifier
      ∧ (∀ chain : List String,
        dir.joinDir (chain.foldl join base) = chain.foldl Path.joinDir (dir.joinDir base))
      ∧ ∀ next, join (join base specifier) next = join base (join specifier next) := by
  refine ⟨joinDir_join dir base specifier, fun chain => ?_, join_assoc base specifier⟩
  induction chain generalizing base with
  | nil => rfl
  | cons text chain ih => rw [List.foldl_cons, List.foldl_cons, ih, joinDir_join]

/-- Two texts one after the other lead where two others lead, from every absolute directory, if and
only if their composed segments are the same text. A composed segment does not change when it is
composed again, and it is empty or points into the file system. -/
theorem joinDir_same_iff_join_eq (base specifier base' specifier' : String) :
    ((∀ dir : Path, dir.isAbsolute = true →
        ((dir.joinDir base).joinDir specifier).Same ((dir.joinDir base').joinDir specifier'))
      ↔ join base specifier = join base' specifier')
      ∧ join "" (join base specifier) = join base specifier
      ∧ (join base specifier = "" ∨ isPath (join base specifier) = true) := by
  refine ⟨⟨fun h => join_eq_of_joinDir fun dir hdir => ?_, fun h dir hdir => ?_⟩,
    empty_join_join base specifier, join_eq_empty_or_isPath base specifier⟩
  · have hsame := h dir hdir
    rw [← joinDir_join, ← joinDir_join] at hsame
    exact (isNormal_joinDir hdir _).eq_of_same (isNormal_joinDir hdir _) hsame
  · rw [← joinDir_join, ← joinDir_join, h]
    exact rfl

end Specifier

end DirectImports
