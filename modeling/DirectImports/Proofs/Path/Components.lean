import DirectImports.Path.Basic
import Mathlib.Data.List.DropRight
import Mathlib.Data.List.Induction

/-!
# The components of built paths

What `join`, `ofComponents` and `parent?` do to the components of a path. After this module a
path is its list of components: the text counts no more, except that `ofComponents` writes each
list in one way (`IsCanonical`).

Every text splits into an anchor and the steps between its slashes (`components_eq`), and
joining a relative text only adds steps (`components_join`).
-/

namespace DirectImports

namespace Path

/-! ## Pieces -/

/-- No piece holds a slash. -/
theorem slash_not_mem_of_mem_pieces (cs : List Char) : ∀ piece ∈ pieces cs, '/' ∉ piece := by
  induction cs with
  | nil => simp [pieces]
  | cons c cs ih =>
    intro piece hpiece
    unfold pieces at hpiece
    by_cases hc : c = '/'
    · rw [if_pos hc] at hpiece
      rcases List.mem_cons.mp hpiece with rfl | hmem
      · simp
      · exact ih piece hmem
    · rw [if_neg hc] at hpiece
      cases hcs : pieces cs with
      | nil => exact absurd hcs (pieces_ne_nil cs)
      | cons first rest =>
        rw [hcs] at hpiece ih
        rcases List.mem_cons.mp hpiece with rfl | hmem
        · simp only [List.mem_cons, not_or]
          exact ⟨fun h => hc h.symm, ih first (by simp)⟩
        · exact ih piece (by simp [hmem])

/-- The pieces on the two sides of a slash. -/
theorem pieces_append_slash (as bs : List Char) :
    pieces (as ++ '/' :: bs) = pieces as ++ pieces bs := by
  induction as with
  | nil => simp [pieces]
  | cons a as ih =>
    rw [List.cons_append, pieces, pieces]
    by_cases ha : a = '/'
    · rw [if_pos ha, if_pos ha, ih, List.cons_append]
    · rw [if_neg ha, if_neg ha, ih]
      cases has : pieces as with
      | nil => exact absurd has (pieces_ne_nil as)
      | cons first rest => simp

/-- A text without a slash is one piece. -/
theorem pieces_of_slash_not_mem {cs : List Char} (h : '/' ∉ cs) : pieces cs = [cs] := by
  induction cs with
  | nil => rfl
  | cons c cs ih =>
    simp only [List.mem_cons, not_or] at h
    rw [pieces, if_neg (fun hc => h.1 hc.symm), ih h.2]

theorem joinPieces_cons_cons (piece next : List Char) (rest : List (List Char)) :
    joinPieces (piece :: next :: rest) = piece ++ '/' :: joinPieces (next :: rest) := rfl

/-- Pieces without a slash are found again in the text that joins them. -/
theorem pieces_joinPieces {body : List (List Char)} (hne : body ≠ [])
    (h : ∀ piece ∈ body, '/' ∉ piece) : pieces (joinPieces body) = body := by
  induction body with
  | nil => exact absurd rfl hne
  | cons piece rest ih =>
    cases rest with
    | nil => exact pieces_of_slash_not_mem (h piece (by simp))
    | cons next rest =>
      rw [joinPieces_cons_cons, pieces_append_slash, pieces_of_slash_not_mem (h piece (by simp)),
        ih (by simp) (fun q hq => h q (by simp [hq]))]
      rfl

/-- One more piece comes after a slash. -/
theorem joinPieces_append_singleton {body : List (List Char)} (hne : body ≠ [])
    (piece : List Char) : joinPieces (body ++ [piece]) = joinPieces body ++ '/' :: piece := by
  induction body with
  | nil => exact absurd rfl hne
  | cons first rest ih =>
    cases rest with
    | nil => simp [joinPieces]
    | cons next rest =>
      have htail : joinPieces (next :: (rest ++ [piece]))
          = joinPieces (next :: rest) ++ '/' :: piece := ih (by simp)
      rw [List.cons_append, List.cons_append, joinPieces_cons_cons, htail, joinPieces_cons_cons]
      simp

/-! ## Steps -/

/-- The steps of a text: the components that its pieces stand for. -/
def steps (text : List Char) : List Component :=
  (pieces text).filterMap componentOfPiece?

@[simp] theorem steps_nil : steps [] = [] := rfl

theorem steps_append_slash (as bs : List Char) :
    steps (as ++ '/' :: bs) = steps as ++ steps bs := by
  rw [steps, pieces_append_slash, List.filterMap_append]
  rfl

theorem steps_slash (cs : List Char) : steps ('/' :: cs) = steps cs :=
  steps_append_slash [] cs

theorem steps_dot_slash (cs : List Char) : steps ('.' :: '/' :: cs) = steps cs :=
  steps_append_slash ['.'] cs

/-- Only an empty piece and a `.` count for nothing. -/
theorem componentOfPiece?_eq_none_iff {piece : List Char} :
    componentOfPiece? piece = none ↔ piece = [] ∨ piece = ['.'] := by
  unfold componentOfPiece?
  split
  · simp
  · simp
  · simp
  · next hnil hdot _ =>
    simp only [reduceCtorEq, false_iff, not_or]
    exact ⟨hnil, hdot⟩

/-- The piece that a component was read from is its text. -/
theorem text_of_componentOfPiece? {piece : List Char} {component : Component}
    (h : componentOfPiece? piece = some component) : component.text.toList = piece := by
  unfold componentOfPiece? at h
  split at h
  · cases h
  · cases h
  · cases h; rfl
  · cases h; simp [Component.text]

end Path

/-- The component is what some piece of a text stands for: `..` or a name. -/
def Component.IsStep (component : Component) : Prop :=
  '/' ∉ component.text.toList ∧ Path.componentOfPiece? component.text.toList = some component

instance (component : Component) : Decidable component.IsStep :=
  inferInstanceAs (Decidable (_ ∧ _))

namespace Path

theorem isStep_parent : Component.parent.IsStep := ⟨by decide, by decide⟩

theorem not_isStep_root : ¬Component.root.IsStep := fun h => h.1 (by decide)

theorem isStep_of_mem_steps {text : List Char} {component : Component}
    (h : component ∈ steps text) : component.IsStep := by
  obtain ⟨piece, hpiece, hsome⟩ := List.mem_filterMap.mp h
  have htext := text_of_componentOfPiece? hsome
  refine ⟨?_, ?_⟩
  · rw [htext]; exact slash_not_mem_of_mem_pieces text piece hpiece
  · rw [htext]; exact hsome

/-- A step is not written as nothing. -/
theorem IsStep.text_ne_nil {component : Component} (h : component.IsStep) :
    component.text.toList ≠ [] := by
  intro hnil
  have hsome := h.2
  rw [hnil] at hsome
  exact absurd hsome (by simp [componentOfPiece?])

/-- The texts of steps stand for these steps. -/
theorem filterMap_componentOfPiece?_texts {cs : List Component} (h : ∀ c ∈ cs, c.IsStep) :
    (cs.map (·.text.toList)).filterMap componentOfPiece? = cs := by
  induction cs with
  | nil => rfl
  | cons c cs ih =>
    rw [List.map_cons, List.filterMap_cons, (h c (by simp)).2]
    simp only
    rw [ih (fun d hd => h d (by simp [hd]))]

/-- The steps of a text made of pieces are what the pieces stand for. -/
theorem steps_joinPieces {body : List (List Char)} (h : ∀ piece ∈ body, '/' ∉ piece) :
    steps (joinPieces body) = body.filterMap componentOfPiece? := by
  cases body with
  | nil => rfl
  | cons piece rest => rw [steps, pieces_joinPieces (by simp) h]

theorem slash_not_mem_of_mem_texts {cs : List Component} (h : ∀ c ∈ cs, c.IsStep) :
    ∀ piece ∈ cs.map (·.text.toList), '/' ∉ piece := by
  intro piece hpiece
  obtain ⟨c, hc, rfl⟩ := List.mem_map.mp hpiece
  exact (h c hc).1

/-- Steps written with slashes between them are read back. -/
theorem steps_joinPieces_texts {cs : List Component} (h : ∀ c ∈ cs, c.IsStep) :
    steps (joinPieces (cs.map (·.text.toList))) = cs := by
  rw [steps_joinPieces (slash_not_mem_of_mem_texts h), filterMap_componentOfPiece?_texts h]

/-- A single step is read back. -/
theorem steps_text {c : Component} (h : c.IsStep) : steps c.text.toList = [c] := by
  have hall : ∀ d ∈ [c], d.IsStep := by simpa using h
  exact steps_joinPieces_texts hall

/-! ## Anchors -/

/-- The anchor of a text. -/
def anchorOf (text : List Char) : Anchor :=
  (anchored text).1

/-- The first piece decides about the anchor. -/
theorem anchorOf_eq {text first : List Char} {rest : List (List Char)}
    (h : pieces text = first :: rest) :
    anchorOf text
      = if first = [] ∧ rest ≠ [] then .root else if first = ['.'] then .current else .none := by
  unfold anchorOf anchored
  rw [h]
  simp only
  split
  · rfl
  · split <;> rfl

/-- The components of a path are its anchor and its steps. -/
theorem components_eq (path : Path) :
    path.components = (anchorOf path.text.toList).components ++ steps path.text.toList := by
  unfold components anchorOf anchored steps
  cases h : pieces path.text.toList with
  | nil => exact absurd h (pieces_ne_nil _)
  | cons first rest =>
    simp only
    split
    · next hroot => rw [hroot.1, List.filterMap_cons]; rfl
    · split
      · next hdot => rw [hdot, List.filterMap_cons]; rfl
      · rfl

theorem anchorOf_slash (cs : List Char) : anchorOf ('/' :: cs) = .root := by
  have hpieces : pieces ('/' :: cs) = [] :: pieces cs := rfl
  rw [anchorOf_eq hpieces, if_pos ⟨rfl, pieces_ne_nil cs⟩]

/-- If the first piece is empty, the text is empty or begins with a slash. -/
theorem rest_ne_nil_of_pieces {text : List Char} {rest : List (List Char)} (hne : text ≠ [])
    (h : pieces text = [] :: rest) : rest ≠ [] := by
  rintro rfl
  have htext := joinPieces_pieces text
  rw [h] at htext
  exact hne htext.symm

/-- What follows a slash does not change the anchor before it. -/
theorem anchorOf_append_slash {as : List Char} (hne : as ≠ []) (bs : List Char) :
    anchorOf (as ++ '/' :: bs) = anchorOf as := by
  cases h : pieces as with
  | nil => exact absurd h (pieces_ne_nil as)
  | cons first rest =>
    have happend : pieces (as ++ '/' :: bs) = first :: (rest ++ pieces bs) := by
      rw [pieces_append_slash, h]; rfl
    rw [anchorOf_eq happend, anchorOf_eq h]
    by_cases hfirst : first = []
    · subst hfirst
      rw [if_pos ⟨rfl, by simp [pieces_ne_nil]⟩, if_pos ⟨rfl, rest_ne_nil_of_pieces hne h⟩]
    · simp only [hfirst, false_and, if_false]

/-- A path is absolute if and only if its first component is the root. -/
theorem isAbsolute_iff_anchorOf (path : Path) :
    path.isAbsolute = true ↔ anchorOf path.text.toList = .root := by
  unfold isAbsolute
  cases h : path.text.toList with
  | nil => simp [anchorOf, anchored, pieces]
  | cons c cs =>
    by_cases hc : c = '/'
    · subst hc
      simp [anchorOf_slash]
    · simp only [List.head?_cons, beq_iff_eq, Option.some.injEq, hc, false_iff]
      cases hcs : pieces cs with
      | nil => exact absurd hcs (pieces_ne_nil cs)
      | cons first rest =>
        have hpieces : pieces (c :: cs) = (c :: first) :: rest := by
          rw [pieces, if_neg hc, hcs]
        rw [anchorOf_eq hpieces, if_neg (by simp)]
        split <;> simp

theorem isAbsolute_iff_components (path : Path) :
    path.isAbsolute = true ↔ ∃ rest, path.components = .root :: rest := by
  rw [isAbsolute_iff_anchorOf, components_eq]
  cases h : anchorOf path.text.toList with
  | root => simp [Anchor.components]
  | current => simp [Anchor.components]
  | none =>
    simp only [Anchor.components, List.nil_append, reduceCtorEq, false_iff, not_exists]
    intro rest hrest
    have hmem : Component.root ∈ steps path.text.toList := by
      rw [hrest]
      simp
    exact not_isStep_root (isStep_of_mem_steps hmem)

/-- The components of an absolute path. -/
theorem components_of_isAbsolute {path : Path} (h : path.isAbsolute = true) :
    path.components = .root :: steps path.text.toList := by
  rw [components_eq, (isAbsolute_iff_anchorOf path).mp h]
  rfl

theorem filter_isStep_steps (text : List Char) : (steps text).filter (·.IsStep) = steps text :=
  List.filter_eq_self.mpr fun _ hc => decide_eq_true (isStep_of_mem_steps hc)

/-- The steps of a path can be told from its components. -/
theorem filter_isStep_components (path : Path) :
    path.components.filter (·.IsStep) = steps path.text.toList := by
  have hanchor : (anchorOf path.text.toList).components.filter (·.IsStep) = [] := by
    cases anchorOf path.text.toList <;> decide
  rw [components_eq, List.filter_append, filter_isStep_steps, hanchor, List.nil_append]

theorem Same.steps {p q : Path} (h : p.Same q) : steps p.text.toList = steps q.text.toList := by
  rw [← filter_isStep_components, h, filter_isStep_components]

/-- Only the empty text has no component. -/
theorem components_eq_nil_iff (path : Path) : path.components = [] ↔ path.text = "" := by
  constructor
  · intro h
    rw [components_eq, List.append_eq_nil_iff] at h
    cases hp : pieces path.text.toList with
    | nil => exact absurd hp (pieces_ne_nil _)
    | cons first rest =>
      obtain ⟨hanchor, hsteps⟩ := h
      rw [anchorOf_eq hp] at hanchor
      rw [steps, hp, List.filterMap_eq_nil_iff] at hsteps
      rcases componentOfPiece?_eq_none_iff.mp (hsteps first (by simp)) with rfl | rfl
      · by_cases hrest : rest = []
        · have htext := joinPieces_pieces path.text.toList
          rw [hp, hrest] at htext
          exact String.toList_eq_nil_iff.mp htext.symm
        · rw [if_pos ⟨rfl, hrest⟩] at hanchor
          exact absurd hanchor (by simp [Anchor.components])
      · rw [if_neg (by simp), if_pos rfl] at hanchor
        exact absurd hanchor (by simp [Anchor.components])
  · intro h
    rw [components_eq, h]
    rfl

/-! ## Joining -/

/-- The text begins with no slash. -/
def IsRelative (text : String) : Prop :=
  text.toList.head? ≠ some '/'

instance (text : String) : Decidable (IsRelative text) :=
  inferInstanceAs (Decidable (_ ≠ _))

theorem join_of_absolute (path : Path) {text : String} (h : ¬IsRelative text) :
    path.join text = ⟨text⟩ := by
  rw [join, if_pos (Classical.not_not.mp h)]

theorem empty_join (text : String) : (⟨""⟩ : Path).join text = ⟨text⟩ := by
  unfold join
  split
  · rfl
  · simp

/-- A relative text adds its steps. -/
theorem components_join {path : Path} {text : String} (hpath : path.text ≠ "")
    (htext : IsRelative text) :
    (path.join text).components = path.components ++ steps text.toList := by
  have hne : path.text.toList ≠ [] := fun h => hpath (String.toList_eq_nil_iff.mp h)
  unfold join
  rw [if_neg htext, components_eq path]
  split
  · next hlast =>
    -- the path ends in a slash already
    obtain ⟨front, hfront⟩ : ∃ front, path.text.toList = front ++ ['/'] := by
      refine ⟨path.text.toList.dropLast, ?_⟩
      rw [List.getLast?_eq_some_getLast hne] at hlast
      have hslash : path.text.toList.getLast hne = '/' := by simpa using hlast
      rw [← hslash, List.dropLast_concat_getLast]
    have happend : (path.text ++ text).toList = front ++ '/' :: text.toList := by simp [hfront]
    rw [components_eq]
    simp only
    rw [happend, hfront, steps_append_slash, steps_append_slash]
    by_cases hnil : front = []
    · subst hnil
      simp [anchorOf_slash]
    · rw [anchorOf_append_slash hnil, anchorOf_append_slash hnil]
      simp
  · have happend : (path.text ++ "/" ++ text).toList = path.text.toList ++ '/' :: text.toList := by
      simp
    rw [components_eq]
    simp only
    rw [happend, steps_append_slash, anchorOf_append_slash hne]
    simp

/-- The components of a joined path depend only on those of its two parts. -/
theorem Same.join {p q : Path} (h : p.Same q) (text : String) :
    (p.join text).Same (q.join text) := by
  by_cases htext : IsRelative text
  · by_cases hp : p.text = ""
    · have hq : q.text = "" := by
        rw [← components_eq_nil_iff, ← h, components_eq_nil_iff]; exact hp
      have hpq : p = q := by cases p; cases q; simp_all
      rw [hpq]
      rfl
    · have hq : q.text ≠ "" := by
        rw [Ne, ← components_eq_nil_iff, ← h, components_eq_nil_iff]; exact hp
      unfold Same
      rw [components_join hp htext, components_join hq htext, h]
  · rw [join_of_absolute p htext, join_of_absolute q htext]
    rfl

/-- A text adds its steps, or begins anew. -/
theorem steps_join (path : Path) (text : String) :
    steps (path.join text).text.toList
      = (if IsRelative text then steps path.text.toList else []) ++ steps text.toList := by
  by_cases htext : IsRelative text
  · rw [if_pos htext]
    by_cases hpath : path.text = ""
    · have hempty : path = ⟨""⟩ := by cases path; simp_all
      rw [hempty, empty_join]
      rfl
    · rw [← filter_isStep_components, components_join hpath htext, List.filter_append,
        filter_isStep_components, filter_isStep_steps]
  · rw [if_neg htext, join_of_absolute path htext, List.nil_append]

/-- A relative text leaves a path absolute or relative. -/
theorem isAbsolute_join_of_isRelative (path : Path) {text : String} (h : IsRelative text) :
    (path.join text).isAbsolute = path.isAbsolute := by
  by_cases hpath : path.text = ""
  · have hempty : path = ⟨""⟩ := by cases path; simp_all
    rw [hempty, empty_join]
    simpa [isAbsolute, IsRelative] using h
  · have hne : path.text.toList ≠ [] := fun hc => hpath (String.toList_eq_nil_iff.mp hc)
    unfold join isAbsolute
    rw [if_neg h]
    split
    · rw [String.toList_append, List.head?_append_of_ne_nil _ hne]
    · rw [String.toList_append, String.toList_append, List.append_assoc,
        List.head?_append_of_ne_nil _ hne]

theorem isAbsolute_join {path : Path} (h : path.isAbsolute = true) (text : String) :
    (path.join text).isAbsolute = true := by
  by_cases htext : IsRelative text
  · rw [isAbsolute_join_of_isRelative path htext, h]
  · rw [join_of_absolute path htext]
    simpa [isAbsolute, IsRelative] using htext

/-! ## Paths from components -/

/-- The text of a step is relative. -/
theorem isRelative_text {c : Component} (h : c.IsStep) : IsRelative c.text := by
  intro hhead
  exact h.1 (List.mem_of_mem_head? hhead)

/-- A path with one more step. -/
theorem components_join_step {path : Path} {c : Component} (h : c.IsStep) :
    (path.join c.text).components = path.components ++ [c] := by
  by_cases hpath : path.text = ""
  · have hempty : path = ⟨""⟩ := by cases path; simp_all
    rw [hempty, empty_join, components_eq]
    have hpieces : pieces c.text.toList = [c.text.toList] := pieces_of_slash_not_mem h.1
    have hnotdot : c.text.toList ≠ ['.'] := fun hdot => by
      have hsome := h.2
      rw [hdot] at hsome
      exact absurd hsome (by simp [componentOfPiece?])
    simp only
    rw [anchorOf_eq hpieces, steps_text h, if_neg (by simp), if_neg hnotdot]
    rfl
  · rw [components_join hpath (isRelative_text h), steps_text h]

theorem ofComponents_append_singleton (cs : List Component) (c : Component) :
    ofComponents (cs ++ [c]) = (ofComponents cs).join c.text := by
  simp [ofComponents]

theorem components_ofComponents_anchor (anchor : Anchor) :
    (ofComponents anchor.components).components = anchor.components := by
  cases anchor <;> decide

/-- The components from which a path is built are those it has. -/
theorem components_ofComponents (anchor : Anchor) {cs : List Component}
    (h : ∀ c ∈ cs, c.IsStep) :
    (ofComponents (anchor.components ++ cs)).components = anchor.components ++ cs := by
  induction cs using List.reverseRecOn with
  | nil => rw [List.append_nil]; exact components_ofComponents_anchor anchor
  | append_singleton cs c ih =>
    rw [← List.append_assoc, ofComponents_append_singleton, components_join_step (h c (by simp)),
      ih (fun d hd => h d (by simp [hd]))]

/-! ## Parents -/

/-- Pieces that count for nothing are cut off at the end. -/
theorem filterMap_trimmed (body : List (List Char)) :
    (trimmed body).filterMap componentOfPiece? = body.filterMap componentOfPiece? := by
  induction body using List.reverseRecOn with
  | nil => rfl
  | append_singleton body piece ih =>
    change (List.rdropWhile _ _).filterMap _ = _
    rw [List.rdropWhile_concat]
    split
    · next h =>
      have hnone : componentOfPiece? piece = none := by
        rw [componentOfPiece?_eq_none_iff]
        simpa using h
      rw [List.filterMap_append, List.filterMap_cons, hnone]
      simp only [List.filterMap_nil, List.append_nil]
      exact ih
    · rfl

theorem trimmed_isPrefix (body : List (List Char)) : trimmed body <+: body :=
  List.rdropWhile_prefix _ body

/-- The last piece that is left counts. -/
theorem exists_component_of_trimmed {body : List (List Char)} (hne : trimmed body ≠ []) :
    ∃ c, componentOfPiece? ((trimmed body).getLast hne) = some c := by
  have hnot := List.rdropWhile_last_not _ body hne
  cases h : componentOfPiece? ((trimmed body).getLast hne) with
  | some c => exact ⟨c, rfl⟩
  | none =>
    exfalso
    refine hnot ?_
    rcases componentOfPiece?_eq_none_iff.mp h with hnil | hdot
    · exact (Bool.or_eq_true _ _).mpr (Or.inl (beq_iff_eq.mpr hnil))
    · exact (Bool.or_eq_true _ _).mpr (Or.inr (beq_iff_eq.mpr hdot))

/-- A body that may follow an anchor: its pieces hold no slash, and without an anchor it does not
begin with a piece that would be one. -/
structure IsBody (anchor : Anchor) (body : List (List Char)) : Prop where
  noSlash : ∀ piece ∈ body, '/' ∉ piece
  unanchored : anchor = .none → ∀ first ∈ body.head?, first ≠ [] ∧ first ≠ ['.']

/-- A prefix of a body is one. -/
theorem IsBody.of_isPrefix {anchor : Anchor} {body front : List (List Char)}
    (h : IsBody anchor body) (hfront : front <+: body) : IsBody anchor front where
  noSlash := fun piece hpiece => h.noSlash piece (hfront.subset hpiece)
  unanchored := by
    intro hanchor first hfirst
    obtain ⟨tail, rfl⟩ := hfront
    cases front with
    | nil => simp at hfirst
    | cons piece rest => exact h.unanchored hanchor first (by simpa using hfirst)

/-- The components of an anchor and a body. -/
theorem components_unanchored {anchor : Anchor} {body : List (List Char)} (h : IsBody anchor body) :
    (⟨String.ofList (Path.unanchored anchor body)⟩ : Path).components
      = anchor.components ++ body.filterMap componentOfPiece? := by
  rw [components_eq]
  simp only [String.toList_ofList]
  cases anchor with
  | root =>
    rw [Path.unanchored, anchorOf_slash, steps_slash, steps_joinPieces h.noSlash]
  | current =>
    cases body with
    | nil => rfl
    | cons piece rest =>
      rw [Path.unanchored, steps_dot_slash, steps_joinPieces h.noSlash]
      · rw [show ('.' :: '/' :: joinPieces (piece :: rest))
          = ['.'] ++ '/' :: joinPieces (piece :: rest) from rfl, anchorOf_append_slash (by simp)]
        rfl
      · simp
  | none =>
    rw [Path.unanchored, steps_joinPieces h.noSlash]
    cases body with
    | nil => rfl
    | cons piece rest =>
      obtain ⟨hnil, hdot⟩ := h.unanchored rfl piece (by simp)
      rw [anchorOf_eq (pieces_joinPieces (by simp) h.noSlash), if_neg (fun hc => hnil hc.1),
        if_neg hdot]

/-- The pieces after an anchor are pieces of the text. -/
theorem subset_pieces_of_anchored {text : List Char} {anchor : Anchor} {body : List (List Char)}
    (h : anchored text = (anchor, body)) : body ⊆ pieces text := by
  unfold anchored at h
  split at h
  · next hnil => exact absurd hnil (pieces_ne_nil text)
  · next hpieces =>
    rw [hpieces]
    split at h
    · cases h; exact List.subset_cons_self _ _
    · split at h
      · cases h; exact List.subset_cons_self _ _
      · cases h; exact List.Subset.refl _

/-- What is left of a text after its anchor, without the end that counts for nothing, is a body. -/
theorem isBody_trimmed {text : List Char} {anchor : Anchor} {body : List (List Char)}
    (h : anchored text = (anchor, body)) : IsBody anchor (trimmed body) where
  noSlash := fun piece hpiece => slash_not_mem_of_mem_pieces text piece
    (subset_pieces_of_anchored h ((trimmed_isPrefix body).subset hpiece))
  unanchored := by
    rintro rfl piece hpiece
    unfold anchored at h
    split at h
    · next hnil => exact absurd hnil (pieces_ne_nil text)
    · next first rest hpieces =>
      split at h
      · cases h
      · next hroot =>
        split at h
        · cases h
        · next hdot =>
          cases h
          obtain ⟨tail, htail⟩ := trimmed_isPrefix (first :: rest)
          have hfirst : piece = first := by
            cases htrim : trimmed (first :: rest) with
            | nil => simp [htrim] at hpiece
            | cons head more =>
              rw [htrim] at hpiece htail
              simp only [List.head?_cons, Option.mem_def, Option.some.injEq] at hpiece
              simp only [List.cons_append, List.cons.injEq] at htail
              rw [← hpiece, htail.1]
          rw [hfirst]
          refine ⟨?_, hdot⟩
          -- an empty first piece is the whole text, and nothing of it is left
          rintro rfl
          have hrest : rest = [] := Classical.byContradiction fun hc => hroot ⟨rfl, hc⟩
          rw [hrest] at hpiece
          exact absurd hpiece (by simp [trimmed])

/-- The components of a path whose text has the given anchor and body. -/
theorem components_of_anchored {path : Path} {anchor : Anchor} {body : List (List Char)}
    (h : anchored path.text.toList = (anchor, body)) :
    path.components = anchor.components ++ (trimmed body).filterMap componentOfPiece? := by
  rw [components, h, filterMap_trimmed]

/-- The parent has all components but the last. -/
theorem components_parent? {path parent : Path} (h : path.parent? = some parent) :
    parent.components = path.components.dropLast := by
  unfold parent? at h
  cases hparts : anchored path.text.toList with
  | mk anchor body =>
    rw [hparts] at h
    have hbody := isBody_trimmed hparts
    rw [components_of_anchored hparts]
    simp only at h
    split at h
    · next hnil =>
      split at h
      · next hcurrent =>
        cases h
        rw [hnil, hcurrent]
        decide
      · cases h
    · next piece rest hcons =>
      cases h
      have hne : trimmed body ≠ [] := by rw [hcons]; simp
      obtain ⟨c, hc⟩ := exists_component_of_trimmed hne
      have hsplit : (trimmed body).filterMap componentOfPiece?
          = (trimmed body).dropLast.filterMap componentOfPiece? ++ [c] := by
        conv_lhs => rw [← List.dropLast_concat_getLast hne]
        rw [List.filterMap_append, List.filterMap_cons, hc]
        rfl
      rw [← hcons, components_unanchored, filterMap_trimmed, hsplit, ← List.append_assoc,
        List.dropLast_concat]
      exact hbody.of_isPrefix ((trimmed_isPrefix _).trans (List.dropLast_prefix _))

/-- Only the root and the empty path have no parent. -/
theorem parent?_eq_none_iff (path : Path) :
    path.parent? = none ↔ path.components = [] ∨ path.components = [.root] := by
  unfold parent?
  cases hparts : anchored path.text.toList with
  | mk anchor body =>
    rw [components_of_anchored hparts]
    simp only
    split
    · next hnil =>
      rw [hnil]
      cases anchor <;> simp [Anchor.components]
    · next piece rest hcons =>
      have hne : trimmed body ≠ [] := by rw [hcons]; simp
      obtain ⟨c, hc⟩ := exists_component_of_trimmed hne
      have hstep : c ∈ (trimmed body).filterMap componentOfPiece? :=
        List.mem_filterMap.mpr ⟨_, List.getLast_mem hne, hc⟩
      have hroot : c ≠ .root := by
        rintro rfl
        have htext := text_of_componentOfPiece? hc
        refine (isBody_trimmed hparts).noSlash _ (List.getLast_mem hne) ?_
        rw [← htext]
        decide
      simp only [reduceCtorEq, false_iff, not_or]
      constructor
      · intro h
        rw [List.append_eq_nil_iff] at h
        rw [h.2] at hstep
        exact absurd hstep (by simp)
      · intro h
        have hmem : c ∈ [Component.root] := by
          rw [← h]
          exact List.mem_append_right _ hstep
        exact hroot (by simpa using hmem)

/-- Parents of paths with the same components have the same components. -/
theorem Same.parent? {p q : Path} (h : p.Same q) :
    (p.parent?.getD ⟨""⟩).Same (q.parent?.getD ⟨""⟩) := by
  have hnone : p.parent? = none ↔ q.parent? = none := by
    rw [parent?_eq_none_iff, parent?_eq_none_iff, show p.components = q.components from h]
  cases hp : p.parent? with
  | none => rw [hnone.mp hp]; rfl
  | some pp =>
    cases hq : q.parent? with
    | none => rw [hnone.mpr hq] at hp; cases hp
    | some qq =>
      show pp.components = qq.components
      rw [components_parent? hp, components_parent? hq, show p.components = q.components from h]

end Path

end DirectImports
