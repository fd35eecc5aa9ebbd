import DirectImports.Proofs.Path.Segment

/-!
# Relative specifiers

A module loader looks at the first piece of a specifier: with `.` or `..` the specifier is relative
(`Specifier.ReadsAsRelative`), with nothing before a slash it is absolute, and with anything else it
names a package.

The way from a directory to a place is written from `..` on if it goes up, and after a `./` if it
goes down, except that a name with two dots at its front is taken for a way up. So the way is a
relative specifier unless its first step goes down into such a name, and then it is read as a
package (`readsAsRelative_relative_iff`).
-/

namespace DirectImports

open DirectImports.Path

/-- The place lies below the directory, and the first name on the way down to it begins with two
dots. -/
def Path.EntersDots (dir target : Path) : Prop :=
  ∃ name rest, target.components = dir.components ++ .name name :: rest
    ∧ ['.', '.'].isPrefixOf name.toList = true

namespace Specifier

/-- The specifier is relative for a module loader. -/
def ReadsAsRelative (specifier : String) : Prop :=
  specifier = "." ∨ specifier = ".."
    ∨ ['.', '/'].isPrefixOf specifier.toList = true
    ∨ ['.', '.', '/'].isPrefixOf specifier.toList = true

/-- The specifier is the name of a package for a module loader. -/
def ReadsAsPackage (specifier : String) : Prop :=
  IsRelative specifier ∧ ¬ReadsAsRelative specifier

instance (specifier : String) : Decidable (ReadsAsRelative specifier) :=
  inferInstanceAs (Decidable (_ ∨ _))

instance (specifier : String) : Decidable (ReadsAsPackage specifier) :=
  inferInstanceAs (Decidable (_ ∧ _))

/-! ## The first piece -/

/-- The first piece is a given text if nothing follows it, or a slash does. -/
theorem exists_pieces_eq_cons_iff {text piece : List Char} (hslash : '/' ∉ piece) :
    (∃ rest, pieces text = piece :: rest)
      ↔ text = piece ∨ (piece ++ ['/']).isPrefixOf text = true := by
  constructor
  · rintro ⟨rest, hpieces⟩
    have htext := joinPieces_pieces text
    rw [hpieces] at htext
    cases rest with
    | nil => exact Or.inl htext.symm
    | cons next rest =>
      refine Or.inr (List.isPrefixOf_iff_prefix.mpr ⟨joinPieces (next :: rest), ?_⟩)
      rw [← htext, joinPieces_cons_cons, List.append_assoc]
      rfl
  · rintro (rfl | hfront)
    · exact ⟨[], pieces_of_slash_not_mem hslash⟩
    · obtain ⟨rest, rfl⟩ := List.isPrefixOf_iff_prefix.mp hfront
      refine ⟨pieces rest, ?_⟩
      rw [List.append_assoc]
      show pieces (piece ++ '/' :: rest) = _
      rw [pieces_append_slash, pieces_of_slash_not_mem hslash]
      rfl

/-- The first piece tells whether a specifier is relative. -/
theorem readsAsRelative_iff_pieces (specifier : String) :
    ReadsAsRelative specifier
      ↔ (∃ rest, pieces specifier.toList = ['.'] :: rest)
        ∨ ∃ rest, pieces specifier.toList = ['.', '.'] :: rest := by
  rw [exists_pieces_eq_cons_iff (by decide), exists_pieces_eq_cons_iff (by decide)]
  unfold ReadsAsRelative
  rw [← String.toList_inj, ← String.toList_inj, or_assoc]
  exact or_congr_right or_left_comm

/-- Two dots at the front of a text of pieces are at the front of the first piece. -/
theorem isPrefixOf_joinPieces_cons {piece : List Char} (hslash : '/' ∉ piece)
    (rest : List (List Char)) :
    ['.', '.'].isPrefixOf (joinPieces (piece :: rest)) = ['.', '.'].isPrefixOf piece := by
  cases rest with
  | nil => rfl
  | cons next rest =>
    rw [joinPieces_cons_cons]
    match piece with
    | [] => rfl
    | [c] => simp [List.isPrefixOf]
    | c :: d :: piece => simp [List.isPrefixOf]

/-! ## The first step of a way -/

theorem sharedLength_append (as bs : List Component) :
    sharedLength as (as ++ bs) = as.length := by
  induction as with
  | nil => cases bs <;> rfl
  | cons a as ih => rw [List.cons_append, sharedLength, if_pos rfl, ih, List.length_cons]

/-- The first step of a way is down into a name if the place lies below the directory. -/
theorem way_eq_cons_name_iff {dir target : Path} {name : String} {rest : List Component} :
    way dir target = .name name :: rest
      ↔ target.components = dir.components ++ .name name :: rest := by
  unfold way
  simp only
  constructor
  · intro hway
    cases hup : dir.components.length - sharedLength dir.components target.components with
    | succ up =>
      rw [hup, List.replicate_succ] at hway
      cases hway
    | zero =>
      rw [hup] at hway
      -- nothing goes up, so the whole directory is shared
      have hdir : dir.components.take (sharedLength dir.components target.components)
          = dir.components := List.take_of_length_le (by omega)
      have htake := take_sharedLength dir.components target.components
      rw [hdir] at htake
      have hsplit := List.take_append_drop (sharedLength dir.components target.components)
        target.components
      rw [← htake, show target.components.drop _ = _ from hway] at hsplit
      exact hsplit.symm
  · intro htarget
    rw [htarget, sharedLength_append, Nat.sub_self, List.drop_left]
    rfl

theorem entersDots_iff {dir target : Path} :
    dir.EntersDots target ↔ ∃ name rest, way dir target = .name name :: rest
      ∧ ['.', '.'].isPrefixOf name.toList = true := by
  simp only [way_eq_cons_name_iff]
  exact Iff.rfl

/-! ## How the way is read -/

/-- Of the steps whose text begins with two dots, only a way up is a first piece of a relative
specifier. -/
theorem pieces_of_dots_iff {c : Component} {rest : List Component}
    (hsteps : ∀ step ∈ c :: rest, step.IsStep)
    (hdots : ['.', '.'].isPrefixOf c.text.toList = true) :
    (∃ more, pieces (joinPieces (c.text.toList :: rest.map (·.text.toList))) = ['.'] :: more)
        ∨ (∃ more, pieces (joinPieces (c.text.toList :: rest.map (·.text.toList)))
          = ['.', '.'] :: more)
      ↔ c = .parent := by
  have hslash := slash_not_mem_of_mem_texts hsteps
  rw [List.map_cons] at hslash
  rw [pieces_joinPieces (by simp) hslash]
  have hc : c.IsStep := hsteps c List.mem_cons_self
  cases c with
  | parent => simp [Component.text]
  | root => exact absurd hc not_isStep_root
  | current => exact absurd hc (by decide)
  | name name =>
    have hname := hc.2
    refine iff_of_false ?_ (by simp)
    rintro (⟨_, heq⟩ | ⟨_, heq⟩)
    · rw [(List.cons.inj heq).1] at hname
      cases hname
    · rw [(List.cons.inj heq).1] at hname
      cases hname

/-- The way between absolute places is a relative specifier, unless it goes down at once into a name
that begins with two dots: then it is read as a package. -/
theorem readsAsRelative_relative_iff {dir target : Path} (hdir : dir.isAbsolute = true)
    (htarget : target.isAbsolute = true) :
    (ReadsAsRelative (relative dir target) ↔ ¬dir.EntersDots target)
      ∧ (ReadsAsPackage (relative dir target) ↔ dir.EntersDots target) := by
  have hsteps : ∀ c ∈ way dir target, c.IsStep := fun c hc => isStep_of_mem_way hdir htarget hc
  have hrelative : ReadsAsRelative (relative dir target) ↔ ¬dir.EntersDots target := by
    rw [entersDots_iff, readsAsRelative_iff_pieces, toList_relative hdir htarget]
    cases hway : way dir target with
    | nil =>
      rw [if_pos rfl]
      simp [pieces]
    | cons c rest =>
      rw [hway] at hsteps
      rw [if_neg (by simp), List.map_cons,
        isPrefixOf_joinPieces_cons (hsteps c List.mem_cons_self).1]
      split
      · next hdots =>
        rw [pieces_of_dots_iff hsteps hdots]
        constructor
        · rintro rfl ⟨name, _, heq, -⟩
          cases heq
        · intro hnot
          cases c with
          | parent => rfl
          | root => cases hdots
          | current => cases hdots
          | name name => exact absurd ⟨name, rest, rfl, hdots⟩ hnot
      · next hnodots =>
        refine iff_of_true (Or.inl ⟨_, pieces_append_slash ['.'] _⟩) ?_
        rintro ⟨name, _, heq, hdots⟩
        rw [(List.cons.inj heq).1] at hnodots
        exact hnodots hdots
  refine ⟨hrelative, ?_⟩
  unfold ReadsAsPackage
  rw [hrelative, not_not]
  exact and_iff_right (relative_spec hdir htarget).2.1

/-- A way up and a name with two dots in it, and a way down into one. -/
theorem readsAsRelative_relative_dots :
    ReadsAsRelative (relative ⟨"/app/src"⟩ ⟨"/app/..b/impl"⟩)
      ∧ ReadsAsPackage (relative ⟨"/app"⟩ ⟨"/app/..b/impl"⟩) := by
  refine ⟨(readsAsRelative_relative_iff (by decide) (by decide)).1.mpr ?_,
    (readsAsRelative_relative_iff (by decide) (by decide)).2.mpr ⟨"..b", [.name "impl"], ?_⟩⟩
  · rintro ⟨name, rest, hcomponents, -⟩
    have htarget : (⟨"/app/..b/impl"⟩ : Path).components
        = [.root, .name "app", .name "..b", .name "impl"] := by decide
    have hdir : (⟨"/app/src"⟩ : Path).components = [.root, .name "app", .name "src"] := by decide
    rw [htarget, hdir] at hcomponents
    simp at hcomponents
  · decide

/-- The way from the root into a directory whose name begins with two dots is read as a package. -/
theorem not_readsAsRelative_relative :
    (⟨"/"⟩ : Path).IsNormal ∧ (⟨"/..a"⟩ : Path).IsNormal
      ∧ relative ⟨"/"⟩ ⟨"/..a"⟩ = "..a"
      ∧ ¬ReadsAsRelative (relative ⟨"/"⟩ ⟨"/..a"⟩) ∧ ReadsAsPackage (relative ⟨"/"⟩ ⟨"/..a"⟩) := by
  decide

end Specifier

end DirectImports
