import DirectImports.Proofs.Path.Clean

/-!
# Tidy paths

Several texts may have the same components, since `//` and `/./` count for nothing. A path is
*tidy* if its text is the one that its components are joined to, so that two tidy paths with the
same components are equal (`IsTidy.eq_of_same`). Normal forms are tidy, and so are the paths that
lookup makes of them: a name below one, and the parent of one.
-/

namespace DirectImports

namespace Path

/-- The text has nothing but an anchor and steps, with one slash between each two. -/
def IsTidy (path : Path) : Prop :=
  ∃ anchor cs, (∀ c ∈ cs, c.IsStep) ∧ path = ofComponents (Anchor.components anchor ++ cs)

theorem IsTidy.ofComponents_components {path : Path} (h : path.IsTidy) :
    ofComponents path.components = path := by
  obtain ⟨anchor, cs, hcs, rfl⟩ := h
  rw [components_ofComponents anchor hcs]

/-- A tidy path is given by its components. -/
theorem IsTidy.eq_of_same {p q : Path} (hp : p.IsTidy) (hq : q.IsTidy) (h : p.Same q) : p = q := by
  rw [← hp.ofComponents_components, ← hq.ofComponents_components, show p.components = _ from h]

/-! ## Names below a tidy path -/

theorem IsTidy.join_step {path : Path} (h : path.IsTidy) {c : Component} (hc : c.IsStep) :
    (path.join c.text).IsTidy := by
  obtain ⟨anchor, cs, hcs, rfl⟩ := h
  refine ⟨anchor, cs ++ [c], ?_, ?_⟩
  · intro d hd
    rcases List.mem_append.mp hd with hmem | hmem
    · exact hcs d hmem
    · rw [List.mem_singleton.mp hmem]
      exact hc
  · rw [← List.append_assoc, ofComponents_append_singleton]

/-- Normal forms are tidy. -/
theorem isTidy_clean (path : Path) : path.clean.IsTidy := by
  unfold clean
  rw [cleanComponents_components]
  split
  · exact ⟨.current, [], by simp, by decide⟩
  · by_cases habs : path.isAbsolute = true
    · obtain ⟨names, hnames, hstack⟩ := exists_stack_of_isAbsolute habs
      refine ⟨.root, names.reverse, fun c hc => (hnames c (by simpa using hc)).2, ?_⟩
      rw [hstack]
      simp [Anchor.components]
    · have hrel : path.isAbsolute = false := by simpa using habs
      exact ⟨.none, path.stack.reverse,
        fun c hc => isStep_of_mem_stack hrel (by simpa using hc), rfl⟩

/-! ## The text of a tidy path -/

/-- A text that ends with a step does not end with a slash. -/
theorem getLast?_joinPieces_texts {cs : List Component} (h : ∀ c ∈ cs, c.IsStep) (hne : cs ≠ []) :
    ∃ last, last ≠ '/' ∧ (joinPieces (cs.map (·.text.toList))).getLast? = some last := by
  obtain ⟨front, c, rfl⟩ := (List.eq_nil_or_concat cs).resolve_left hne
  have hc : c.IsStep := h c (by simp)
  have htext : c.text.toList ≠ [] := IsStep.text_ne_nil hc
  refine ⟨c.text.toList.getLast htext, ?_, ?_⟩
  · intro hlast
    exact hc.1 (hlast ▸ List.getLast_mem htext)
  · rw [List.concat_eq_append]
    cases front with
    | nil => exact List.getLast?_eq_some_getLast htext
    | cons first rest =>
      rw [List.map_append, List.map_singleton, joinPieces_append_singleton (by simp),
        List.getLast?_append, List.getLast?_cons, List.getLast?_eq_some_getLast htext]
      rfl

/-- A step is set off by a slash from a text that does not end with one. -/
theorem toList_join_step {path : Path} {c : Component} (hc : c.IsStep) {last : Char}
    (hlast : path.text.toList.getLast? = some last) (hne : last ≠ '/') :
    (path.join c.text).text.toList = path.text.toList ++ '/' :: c.text.toList := by
  unfold join
  rw [if_neg (isRelative_text hc), hlast, if_neg (by simpa using hne)]
  simp

theorem getLast?_unanchored (anchor : Anchor) {body : List (List Char)} {last : Char}
    (h : (joinPieces body).getLast? = some last) :
    (unanchored anchor body).getLast? = some last := by
  cases anchor with
  | root => rw [unanchored, List.getLast?_cons, h]; rfl
  | current =>
    cases body with
    | nil => cases h
    | cons piece rest =>
      rw [unanchored, List.getLast?_cons, List.getLast?_cons, h]
      · rfl
      · simp
  | none => exact h

theorem unanchored_append_singleton (anchor : Anchor) {body : List (List Char)} (hne : body ≠ [])
    (piece : List Char) :
    unanchored anchor (body ++ [piece]) = unanchored anchor body ++ '/' :: piece := by
  cases body with
  | nil => exact absurd rfl hne
  | cons first rest =>
    have hjoin := joinPieces_append_singleton hne piece
    rw [List.cons_append] at hjoin ⊢
    cases anchor <;> simp [unanchored, hjoin]

/-- The text that an anchor and steps are joined to. -/
theorem toList_ofComponents (anchor : Anchor) {cs : List Component} (h : ∀ c ∈ cs, c.IsStep) :
    (ofComponents (anchor.components ++ cs)).text.toList
      = unanchored anchor (cs.map (·.text.toList)) := by
  induction cs using List.reverseRecOn with
  | nil => cases anchor <;> decide
  | append_singleton cs c ih =>
    have hc : c.IsStep := h c (by simp)
    have hcs : ∀ d ∈ cs, d.IsStep := fun d hd => h d (by simp [hd])
    rw [← List.append_assoc, ofComponents_append_singleton]
    -- the first step follows the anchor, every other one a step, which needs a slash
    by_cases hnil : cs = []
    · subst hnil
      have hrel : c.text.toList.head? ≠ some '/' := isRelative_text hc
      cases anchor with
      | root =>
        change ((⟨"/"⟩ : Path).join c.text).text.toList = '/' :: c.text.toList
        simp [join, hrel]
      | current =>
        change ((⟨"."⟩ : Path).join c.text).text.toList = '.' :: '/' :: c.text.toList
        simp [join, hrel]
      | none =>
        change ((⟨""⟩ : Path).join c.text).text.toList = c.text.toList
        rw [empty_join]
    · obtain ⟨last, hne, hlast⟩ := getLast?_joinPieces_texts hcs hnil
      have hend : (ofComponents (anchor.components ++ cs)).text.toList.getLast? = some last := by
        rw [ih hcs]
        exact getLast?_unanchored anchor hlast
      rw [toList_join_step hc hend hne, ih hcs, List.map_append, List.map_singleton,
        unanchored_append_singleton anchor (by simpa using hnil)]

/-! ## The parent of a tidy path -/

/-- Nothing is cut off the texts of steps. -/
theorem trimmed_texts {cs : List Component} (h : ∀ c ∈ cs, c.IsStep) :
    trimmed (cs.map (·.text.toList)) = cs.map (·.text.toList) := by
  induction cs using List.reverseRecOn with
  | nil => rfl
  | append_singleton cs c ih =>
    have hc : c.IsStep := h c (by simp)
    rw [List.map_append, List.map_singleton]
    refine List.rdropWhile_concat_neg _ _ _ ?_
    intro hskip
    have hnone : componentOfPiece? c.text.toList = none := by
      rw [componentOfPiece?_eq_none_iff]
      simpa using hskip
    rw [hc.2] at hnone
    cases hnone

/-- An anchor and steps are found again in the text. -/
theorem anchored_unanchored (anchor : Anchor) {cs : List Component} (h : ∀ c ∈ cs, c.IsStep) :
    ∃ body, anchored (unanchored anchor (cs.map (·.text.toList))) = (anchor, body)
      ∧ trimmed body = cs.map (·.text.toList) := by
  cases cs with
  | nil => cases anchor <;> exact ⟨_, rfl, by decide⟩
  | cons c rest =>
    refine ⟨(c :: rest).map (·.text.toList), ?_, trimmed_texts h⟩
    have hpieces := pieces_joinPieces (by simp) (slash_not_mem_of_mem_texts h)
    have hc : c.IsStep := h c (by simp)
    have hnil : c.text.toList ≠ [] := IsStep.text_ne_nil hc
    have hdot : c.text.toList ≠ ['.'] := by
      intro hdot
      exact absurd (hdot ▸ hc.2) (by simp [componentOfPiece?])
    rw [List.map_cons] at hpieces ⊢
    cases anchor with
    | root => simp [unanchored, anchored, pieces, hpieces]
    | current => simp [unanchored, anchored, pieces, hpieces]
    | none => simp [unanchored, anchored, hpieces, hnil, hdot]

/-- The parent of a tidy path is tidy. -/
theorem IsTidy.parent? {path parent : Path} (h : path.IsTidy)
    (hparent : path.parent? = some parent) : parent.IsTidy := by
  obtain ⟨anchor, cs, hcs, rfl⟩ := h
  obtain ⟨body, hanchored, htrimmed⟩ := anchored_unanchored anchor hcs
  unfold Path.parent? at hparent
  rw [toList_ofComponents anchor hcs, hanchored] at hparent
  simp only [htrimmed] at hparent
  split at hparent
  · split at hparent
    · cases hparent
      exact ⟨.none, [], by simp, rfl⟩
    · cases hparent
  · next hcons =>
    cases hparent
    have hfront : ∀ c ∈ cs.dropLast, c.IsStep := fun c hc => hcs c (List.dropLast_subset _ hc)
    refine ⟨anchor, cs.dropLast, hfront, ?_⟩
    rw [← hcons, ← List.map_dropLast, trimmed_texts hfront, ← toList_ofComponents anchor hfront,
      String.ofList_toList]

end Path

end DirectImports
