import DirectImports.Proofs.Path.Segment

/-!
# Climbing out of a directory

Steps that are taken in a directory come to the same as going up some directories and then down
through some names (`cleanComponents_eq`). Going up takes names off the end of an absolute
directory, and does nothing at the root (`foldl_cleanStep_climb`). So a path that is written with a
directory's components at its front need not lie below that directory: it does if and only if the
names that it takes off the directory are the first ones that it goes down into again
(`startsWith_clean_iff`).
-/

namespace DirectImports

namespace Path

open Component

/-! ## Up and down -/

/-- How many directories the steps go up, all in all. -/
def climb (way : List Component) : Nat :=
  ((cleanComponents way).takeWhile (· = .parent)).length

/-- The names that the steps go down through after that. -/
def descent (way : List Component) : List Component :=
  (cleanComponents way).dropWhile (· = .parent)

/-- The names of the directory that the steps climb out of are the first ones that they go down into
again. -/
def Regains (dir : Path) (way : List Component) : Prop :=
  let names := dir.clean.components.tail
  names.drop (names.length - climb way) <+: descent way

instance (dir : Path) (way : List Component) : Decidable (dir.Regains way) :=
  inferInstanceAs (Decidable (_ <+: _))

/-- What steps leave on a stack: names above the parents that could not be taken off. -/
theorem exists_foldl_cleanStep {way names : List Component} {k : Nat} (hway : .root ∉ way)
    (hnames : ∀ c ∈ names, c.isName = true) :
    ∃ kept n, (∀ c ∈ kept, c.isName = true)
      ∧ way.foldl cleanStep (names ++ List.replicate k .parent)
        = kept ++ List.replicate n .parent := by
  induction way generalizing names k with
  | nil => exact ⟨names, k, hnames, rfl⟩
  | cons c way ih =>
    have htail : Component.root ∉ way := fun hc => hway (List.mem_cons_of_mem _ hc)
    rw [List.foldl_cons]
    cases c with
    | root => exact absurd List.mem_cons_self hway
    | current => exact ih htail hnames
    | name name =>
      have hmore : ∀ c ∈ Component.name name :: names, c.isName = true := by
        intro c hc
        rcases List.mem_cons.mp hc with rfl | hc
        · rfl
        · exact hnames c hc
      exact ih htail hmore
    | parent =>
      cases names with
      | cons top rest =>
        rw [List.cons_append, cleanStep_parent_of_isName (hnames top List.mem_cons_self)]
        exact ih htail fun c hc => hnames c (List.mem_cons_of_mem _ hc)
      | nil =>
        have hstep : cleanStep ([] ++ List.replicate k .parent) .parent
            = [] ++ List.replicate (k + 1) .parent := by
          cases k <;> rfl
        rw [hstep]
        exact ih htail hnames

/-- The normal form of steps is so many directories up, and then names. -/
theorem cleanComponents_eq {way : List Component} (hway : .root ∉ way) :
    cleanComponents way = List.replicate (climb way) .parent ++ descent way
      ∧ ∀ c ∈ descent way, c.isName = true := by
  have hnone : ∀ c ∈ ([] : List Component), c.isName = true := by simp
  obtain ⟨kept, n, hkept, hfold⟩ := exists_foldl_cleanStep (k := 0) hway hnone
  have hclean : cleanComponents way = List.replicate n .parent ++ kept.reverse := by
    unfold cleanComponents
    rw [show ([] : List Component) = [] ++ List.replicate 0 .parent from rfl, hfold,
      List.reverse_append, List.reverse_replicate]
  have hnames : ∀ c ∈ kept.reverse, c.isName = true := fun c hc => hkept c (by simpa using hc)
  -- a name is no parent, so the parents end where the names begin
  have hsplit : (kept.reverse.takeWhile (· = .parent)) = []
      ∧ (kept.reverse.dropWhile (· = .parent)) = kept.reverse := by
    cases hcase : kept.reverse with
    | nil => exact ⟨rfl, rfl⟩
    | cons c rest =>
      have hc : c ≠ .parent := by
        rintro rfl
        cases hnames .parent (by rw [hcase]; exact List.mem_cons_self)
      rw [List.takeWhile_cons_of_neg (by simpa using hc),
        List.dropWhile_cons_of_neg (by simpa using hc)]
      exact ⟨rfl, rfl⟩
  have hclimb : climb way = n := by
    unfold climb
    rw [hclean, List.takeWhile_append_of_pos (by simp), hsplit.1]
    simp
  have hdescent : descent way = kept.reverse := by
    unfold descent
    rw [hclean, List.dropWhile_append_of_pos (by simp), hsplit.2]
  rw [hclimb, hdescent]
  exact ⟨hclean, hnames⟩

/-- Going up takes names off, as far as there are any above the root. -/
theorem foldl_cleanStep_climb {names : List Component} (hnames : ∀ c ∈ names, c.isName = true)
    (k : Nat) :
    (List.replicate k .parent).foldl cleanStep (names ++ [.root]) = names.drop k ++ [.root] := by
  induction k generalizing names with
  | zero => rfl
  | succ k ih =>
    rw [List.replicate_succ, List.foldl_cons]
    cases names with
    | nil =>
      have hroot := ih hnames
      rw [List.drop_nil] at hroot ⊢
      exact hroot
    | cons top rest =>
      rw [List.cons_append, cleanStep_parent_of_isName (hnames top List.mem_cons_self)]
      exact ih fun c hc => hnames c (List.mem_cons_of_mem _ hc)

/-! ## Below a directory -/

variable {dir path : Path} {way : List Component}

/-- A path that begins with a directory's components goes on with steps. -/
theorem exists_way_of_startsWith (hpath : path.isAbsolute = true) (hdir : dir.isAbsolute = true)
    (h : path.startsWith dir = true) :
    ∃ way, path.components = dir.components ++ way ∧ .root ∉ way := by
  obtain ⟨way, hway⟩ := List.isPrefixOf_iff_prefix.mp h
  refine ⟨way, hway.symm, fun hroot => ?_⟩
  rw [components_of_isAbsolute hpath, components_of_isAbsolute hdir, List.cons_append] at hway
  refine root_not_mem_steps path.text.toList ?_
  rw [← (List.cons.inj hway).2]
  exact List.mem_append_right _ hroot

/-- The normal form of a path in a directory: what is left of the directory, and the names below. -/
theorem components_clean_append (hdir : dir.isAbsolute = true)
    (hpath : path.components = dir.components ++ way) (hway : .root ∉ way) :
    ∃ names, dir.clean.components = .root :: names
      ∧ path.clean.components
        = .root :: (names.take (names.length - climb way) ++ descent way) := by
  obtain ⟨names, hnames, hstack⟩ := exists_stack_of_isAbsolute hdir
  obtain ⟨hclean, hdescent⟩ := cleanComponents_eq hway
  have hname : ∀ c ∈ names, c.isName = true := fun c hc => (hnames c hc).1
  have hpathStack : path.stack
      = (descent way).reverse ++ (names.drop (climb way) ++ [.root]) := by
    calc path.stack = way.foldl cleanStep dir.stack := by
          rw [stack, hpath, List.foldl_append]
          rfl
      _ = (descent way).foldl cleanStep
            ((List.replicate (climb way) .parent).foldl cleanStep (names ++ [.root])) := by
          rw [← foldl_cleanComponents hway, hclean, List.foldl_append, hstack]
      _ = (descent way).reverse ++ (names.drop (climb way) ++ [.root]) := by
          rw [foldl_cleanStep_climb hname, foldl_cleanStep_names hdescent]
  refine ⟨names.reverse, ?_, ?_⟩
  · rw [components_clean, hstack, if_neg (by simp)]
    simp
  · have hleft : names.reverse.take (names.reverse.length - climb way)
        = (names.drop (climb way)).reverse := by
      rw [List.reverse_drop, List.length_reverse]
    rw [hleft, components_clean, hpathStack, if_neg (by simp)]
    simp

/-- In normal form a path lies below a directory whose components it begins with if and only if it
regains the names that it climbs out of. -/
theorem startsWith_clean_iff (hdir : dir.isAbsolute = true)
    (hpath : path.components = dir.components ++ way) (hway : .root ∉ way) :
    path.clean.startsWith dir.clean = true ↔ dir.Regains way := by
  obtain ⟨names, hnames, hplace⟩ := components_clean_append hdir hpath hway
  unfold startsWith Regains
  rw [List.isPrefixOf_iff_prefix, hnames, hplace, List.tail_cons, List.prefix_cons_inj]
  dsimp only
  generalize names.length - climb way = left
  calc names <+: names.take left ++ descent way
      ↔ names.take left ++ names.drop left <+: names.take left ++ descent way := by
        rw [List.take_append_drop]
    _ ↔ names.drop left <+: descent way := List.prefix_append_right_inj _

end Path

end DirectImports
