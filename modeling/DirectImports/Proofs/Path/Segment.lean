import DirectImports.Path.Specifier
import DirectImports.Proofs.Path.Clean

/-!
# Segments and the places they lead to

A segment stands for a place once a directory is given: `dir.joinDir segment`. This module says
how that place depends on how the segment was made.

* `joinDir_join`: composing segments and then going there is going there one after the other;
* `joinDir_relative`, `joinDir_toSlash`: the two ways to write down a place lead back to it;
* `join_eq_empty_or_isPath`: a composed segment is never mistaken for the name of a package.
-/

namespace DirectImports

open Component

/-! ## Writing components -/

theorem toList_joinNames (cs : List Component) :
    (joinNames cs).toList = Path.joinPieces (cs.map (·.text.toList)) := by
  unfold joinNames
  induction cs with
  | nil => rfl
  | cons c cs ih =>
    cases cs with
    | nil => simp [Path.joinPieces]
    | cons d cs =>
      rw [List.map_cons, List.map_cons, String.intercalate_cons_cons, String.toList_append,
        String.toList_append, ← List.map_cons, ih]
      simp [Path.joinPieces_cons_cons]

namespace Path

theorem isAbsolute_eq_false_iff (text : String) :
    (⟨text⟩ : Path).isAbsolute = false ↔ IsRelative text := by
  simp [isAbsolute, IsRelative]

theorem isAbsolute_of_not_isRelative {text : String} (h : ¬IsRelative text) :
    (⟨text⟩ : Path).isAbsolute = true := by
  rw [← isAbsolute_eq_false_iff] at h
  simpa using h

/-- The components of an absolute path, written with slashes, are those of the path. -/
theorem components_toSlash {path : Path} (h : path.isAbsolute = true) :
    (⟨path.toSlash⟩ : Path).components = path.components := by
  have hcomponents := components_of_isAbsolute h
  have htext : path.toSlash.toList
      = '/' :: joinPieces ((steps path.text.toList).map (·.text.toList)) := by
    unfold toSlash
    rw [hcomponents]
    simp [toList_joinNames]
  rw [components_eq]
  simp only
  rw [htext, anchorOf_slash, steps_slash,
    steps_joinPieces_texts (fun c hc => isStep_of_mem_steps hc), hcomponents]
  rfl

theorem not_isRelative_toSlash {path : Path} (h : path.isAbsolute = true) :
    ¬IsRelative path.toSlash := by
  intro hrel
  have hsame := (isAbsolute_iff_components ⟨path.toSlash⟩).mpr
    ⟨_, by rw [components_toSlash h, components_of_isAbsolute h]⟩
  rw [(isAbsolute_eq_false_iff _).mpr hrel] at hsame
  cases hsame

/-! ## Places -/

theorem stack_join (path : Path) {text : String} (h : IsRelative text) :
    (path.join text).stack = (steps text.toList).foldl cleanStep path.stack := by
  by_cases hpath : path.text = ""
  · have hempty : path = ⟨""⟩ := by cases path; simp_all
    rw [hempty, empty_join, stack_of_not_isAbsolute ((isAbsolute_eq_false_iff text).mpr h)]
    rfl
  · rw [stack, components_join hpath h, List.foldl_append]
    rfl

theorem stack_joinDir (dir : Path) {text : String} (h : IsRelative text) :
    (dir.joinDir text).stack = (steps text.toList).foldl cleanStep dir.stack := by
  rw [joinDir, stack_clean, stack_join dir h]

theorem joinDir_of_absolute (dir : Path) {text : String} (h : ¬IsRelative text) :
    dir.joinDir text = (⟨text⟩ : Path).clean := by
  rw [joinDir, join_of_absolute dir h]

theorem clean_joinDir (dir : Path) (text : String) : (dir.joinDir text).clean = dir.joinDir text :=
  clean_clean _

/-- Two places are one if their stacks agree. -/
theorem joinDir_eq_of_stack {p q : Path} {s t : String}
    (h : (p.joinDir s).stack = (q.joinDir t).stack) : p.joinDir s = q.joinDir t := by
  rw [← clean_joinDir p s, ← clean_joinDir q t]
  exact clean_eq_of_stack h

/-- A place depends on the stack of the directory only. -/
theorem joinDir_congr {p q : Path} (h : p.stack = q.stack) (text : String) :
    p.joinDir text = q.joinDir text := by
  by_cases htext : IsRelative text
  · refine joinDir_eq_of_stack ?_
    rw [stack_joinDir p htext, stack_joinDir q htext, h]
  · rw [joinDir_of_absolute p htext, joinDir_of_absolute q htext]

theorem Same.joinDir {p q : Path} (h : p.Same q) (text : String) :
    p.joinDir text = q.joinDir text :=
  joinDir_congr h.stack text

theorem isNormal_joinDir {dir : Path} (h : dir.isAbsolute = true) (text : String) :
    (dir.joinDir text).IsNormal :=
  isNormal_clean (isAbsolute_join h text)

/-- The empty segment is the directory itself. -/
theorem joinDir_empty {dir : Path} (h : dir.IsNormal) : dir.joinDir "" = dir := by
  have hclean : dir.joinDir "" = dir.clean := by
    rw [← clean_joinDir]
    refine clean_eq_of_stack ?_
    rw [stack_joinDir dir (by decide)]
    rfl
  rw [hclean, h.2]

/-- `..` leads to the directory above, as far as there is one. -/
theorem components_joinDir_parent {dir : Path} (h : dir.IsNormal)
    (hroot : dir.components ≠ [.root]) :
    (dir.joinDir "..").components = dir.components.dropLast := by
  obtain ⟨names, hnames, hcomponents⟩ := h.isRooted
  have hstack : (dir.joinDir "..").stack = cleanStep dir.stack .parent := by
    rw [stack_joinDir dir (by decide)]
    rfl
  rw [(isNormal_joinDir h.1 "..").2.symm, components_clean, hstack, h.isRooted.stack, hcomponents]
  cases hlast : names.reverse with
  | nil => exact absurd (by rw [hcomponents, List.reverse_eq_nil_iff.mp hlast]) hroot
  | cons last front =>
    have hsplit : names = front.reverse ++ [last] := by
      rw [← List.reverse_reverse names, hlast, List.reverse_cons]
    have hname : last.isName = true := (hnames last (by rw [hsplit]; simp)).1
    rw [List.reverse_cons, hlast, List.cons_append, cleanStep_parent_of_isName hname, hsplit,
      if_neg (by simp)]
    rw [← List.cons_append, List.dropLast_concat]
    simp

end Path

/-! ## Segments -/

namespace Specifier

open DirectImports.Path

/-- The segment of an absolute place is absolute and has its components. -/
theorem ofClean_of_isAbsolute {path : Path} (h : path.isAbsolute = true) :
    ofClean path = path.toSlash := by
  unfold ofClean
  rw [if_pos h]

theorem toSlash_of_isStep {path : Path} (h : ∀ c ∈ path.components, c.IsStep) :
    path.toSlash.toList = joinPieces (path.components.map (·.text.toList)) := by
  unfold toSlash
  split
  · next rest hroot => exact absurd (h .root (by rw [hroot]; simp)) not_isStep_root
  · exact toList_joinNames _

theorem isPath_of_not_isRelative {text : String} (h : ¬IsRelative text) : isPath text = true := by
  unfold IsRelative at h
  unfold isPath
  cases htext : text.toList with
  | nil => simp [htext] at h
  | cons c cs =>
    rw [htext] at h
    simp only [List.head?_cons, ne_eq, Option.some.injEq, not_not] at h
    simp [h]

/-- A text that begins with a dot points into the file system. -/
theorem isPath_of_isPrefixOf {front : List Char} {text : String}
    (h : ('.' :: front).isPrefixOf text.toList = true) : isPath text = true := by
  unfold isPath
  cases htext : text.toList with
  | nil => simp [htext] at h
  | cons c cs =>
    rw [htext] at h
    simp only [List.isPrefixOf, Bool.and_eq_true, beq_iff_eq] at h
    simp [← h.1]

/-- A list of steps is written beginning with something else than a slash. -/
theorem head?_joinPieces_texts {cs : List Component} (h : ∀ c ∈ cs, c.IsStep) :
    (joinPieces (cs.map (·.text.toList))).head? ≠ some '/' := by
  cases cs with
  | nil => simp [joinPieces]
  | cons c cs =>
    have hc := h c (by simp)
    have hhead : (joinPieces ((c :: cs).map (·.text.toList))).head? = c.text.toList.head? := by
      cases cs with
      | nil => rfl
      | cons d cs =>
        rw [List.map_cons, List.map_cons, joinPieces_cons_cons, List.head?_append_of_ne_nil]
        exact IsStep.text_ne_nil hc
    rw [hhead]
    exact isRelative_text hc

/-- The segment of a relative path in normal form: its steps are those on the stack. -/
theorem ofClean_of_not_isAbsolute {path : Path} (hrel : path.isAbsolute = false)
    (hclean : path.clean = path) :
    IsRelative (ofClean path) ∧ steps (ofClean path).toList = path.stack.reverse := by
  have hcomponents := components_clean path
  rw [hclean] at hcomponents
  unfold ofClean
  rw [if_neg (by simp [hrel])]
  by_cases hempty : path.stack = []
  · rw [if_pos hempty] at hcomponents
    have hdot : path.toSlash = "." := by unfold toSlash; rw [hcomponents]; rfl
    rw [if_pos (Or.inr hdot), hempty]
    exact ⟨by decide, rfl⟩
  · rw [if_neg hempty] at hcomponents
    have hsteps : ∀ c ∈ path.components, c.IsStep := by
      intro c hc
      rw [hcomponents, List.mem_reverse] at hc
      exact isStep_of_mem_stack hrel hc
    have htext := toSlash_of_isStep hsteps
    have hread : steps path.toSlash.toList = path.stack.reverse := by
      rw [htext, steps_joinPieces_texts hsteps, hcomponents]
    have hhead : IsRelative path.toSlash := by
      unfold IsRelative
      rw [htext]
      exact head?_joinPieces_texts hsteps
    split
    · next hnone =>
      exfalso
      refine hempty (List.reverse_eq_nil_iff.mp ?_)
      rw [← hread]
      rcases hnone with h | h <;> rw [h] <;> rfl
    · split
      · exact ⟨hhead, hread⟩
      · refine ⟨?_, ?_⟩
        · simp [IsRelative]
        · rw [← hread, String.toList_append]
          exact steps_dot_slash _

/-- Where the segment of a path in normal form leads: an absolute one to itself, a relative one as
far as its steps go from the directory. -/
theorem stack_joinDir_ofClean (dir : Path) {path : Path} (hclean : path.clean = path) :
    (dir.joinDir (ofClean path)).stack
      = if path.isAbsolute = true then path.stack
        else path.stack.reverse.foldl cleanStep dir.stack := by
  split
  · next habs =>
    rw [ofClean_of_isAbsolute habs, joinDir_of_absolute dir (not_isRelative_toSlash habs),
      stack_clean, Same.stack (components_toSlash habs)]
  · next hnot =>
    obtain ⟨hrel, hsteps⟩ := ofClean_of_not_isAbsolute (by simpa using hnot) hclean
    rw [stack_joinDir dir hrel, hsteps]

/-- A composed segment leads where its two parts lead one after the other. -/
theorem joinDir_join (dir : Path) (base specifier : String) :
    dir.joinDir (join base specifier) = (dir.joinDir base).joinDir specifier := by
  refine joinDir_eq_of_stack ?_
  unfold join
  rw [stack_joinDir_ofClean dir (clean_clean _), isAbsolute_clean, stack_clean]
  by_cases hspec : IsRelative specifier
  · rw [isAbsolute_join_of_isRelative _ hspec, stack_join _ hspec, stack_joinDir _ hspec]
    by_cases hbase : IsRelative base
    · -- the segment pushes the normal form of what the two texts push
      have hrel := (isAbsolute_eq_false_iff base).mpr hbase
      have hstack : ((steps specifier.toList).foldl cleanStep (⟨base⟩ : Path).stack).reverse
          = cleanComponents (steps base.toList ++ steps specifier.toList) := by
        rw [stack_of_not_isAbsolute hrel, cleanComponents, List.foldl_append]
      rw [if_neg (by simp [hrel]), hstack, foldl_cleanComponents (by simp [root_not_mem_steps]),
        List.foldl_append, stack_joinDir dir hbase]
    · rw [if_pos (isAbsolute_of_not_isRelative hbase), joinDir_of_absolute dir hbase, stack_clean]
  · rw [join_of_absolute _ hspec, if_pos (isAbsolute_of_not_isRelative hspec),
      joinDir_of_absolute _ hspec, stack_clean]

/-- A composed segment is empty or points into the file system. -/
theorem join_eq_empty_or_isPath (base specifier : String) :
    join base specifier = "" ∨ isPath (join base specifier) = true := by
  unfold join
  cases habs : ((⟨base⟩ : Path).join specifier).clean.isAbsolute with
  | true =>
    right
    rw [ofClean_of_isAbsolute habs]
    exact isPath_of_not_isRelative (not_isRelative_toSlash habs)
  | false =>
    unfold ofClean
    rw [if_neg (by simp [habs])]
    generalize ((⟨base⟩ : Path).join specifier).clean.toSlash = text
    split
    · exact Or.inl rfl
    · split
      · next hup =>
        right
        rcases hup with h | h
        · rw [h]; decide
        · exact isPath_of_isPrefixOf h
      · right
        simp [isPath]

/-! ## The way to a place -/

theorem take_sharedLength (as bs : List Component) :
    as.take (sharedLength as bs) = bs.take (sharedLength as bs) := by
  induction as generalizing bs with
  | nil => cases bs <;> rfl
  | cons a as ih =>
    cases bs with
    | nil => rfl
    | cons b bs =>
      unfold sharedLength
      split
      · next h => rw [List.take_succ_cons, List.take_succ_cons, ih, h]
      · rfl

/-- The components of the way from a directory to a place. -/
def way (dir target : Path) : List Component :=
  let shared := sharedLength dir.components target.components
  List.replicate (dir.components.length - shared) .parent ++ target.components.drop shared

/-- The way between absolute places consists of steps. -/
theorem isStep_of_mem_way {dir target : Path} (hdir : dir.isAbsolute = true)
    (htarget : target.isAbsolute = true) {c : Component} (hc : c ∈ way dir target) : c.IsStep := by
  unfold way at hc
  rw [components_of_isAbsolute hdir, components_of_isAbsolute htarget, sharedLength,
    if_pos rfl] at hc
  rcases List.mem_append.mp hc with hup | hdown
  · rw [List.eq_of_mem_replicate hup]
    exact isStep_parent
  · rw [List.drop_succ_cons] at hdown
    exact isStep_of_mem_steps (List.mem_of_mem_drop hdown)

/-- A way is written by its steps, after a `./` unless it begins with two dots. -/
theorem toList_relative {dir target : Path} (hdir : dir.isAbsolute = true)
    (htarget : target.isAbsolute = true) :
    (relative dir target).toList
      = if way dir target = [] then ['.']
        else if ['.', '.'].isPrefixOf (joinPieces ((way dir target).map (·.text.toList))) then
          joinPieces ((way dir target).map (·.text.toList))
        else '.' :: '/' :: joinPieces ((way dir target).map (·.text.toList)) := by
  have hsteps : ∀ c ∈ way dir target, c.IsStep := fun c hc => isStep_of_mem_way hdir htarget hc
  have hcomponents : (ofComponents (way dir target)).components = way dir target :=
    components_ofComponents .none hsteps
  have htext : (ofComponents (way dir target)).toSlash.toList
      = joinPieces ((way dir target).map (·.text.toList)) := by
    rw [toSlash_of_isStep (by rw [hcomponents]; exact hsteps), hcomponents]
  have hempty : (ofComponents (way dir target)).toSlash = "" ↔ way dir target = [] := by
    rw [← String.toList_inj, htext]
    constructor
    · intro hnil
      have hread := steps_joinPieces_texts hsteps
      rw [hnil] at hread
      exact hread.symm
    · intro hnil
      rw [hnil]
      rfl
  rw [← htext]
  show (if (ofComponents (way dir target)).toSlash = "" then "."
      else if ['.', '.'].isPrefixOf (ofComponents (way dir target)).toSlash.toList then
        (ofComponents (way dir target)).toSlash
      else "./" ++ (ofComponents (way dir target)).toSlash).toList = _
  simp only [hempty]
  split
  · rfl
  · split
    · rfl
    · rw [String.toList_append]
      rfl

/-- What is written down is the way. -/
theorem relative_spec {dir target : Path} (hdir : dir.isAbsolute = true)
    (htarget : target.isAbsolute = true) :
    isPath (relative dir target) = true ∧ IsRelative (relative dir target)
      ∧ steps (relative dir target).toList = way dir target := by
  have hway : ∀ c ∈ way dir target, c.IsStep := fun c hc => isStep_of_mem_way hdir htarget hc
  have hread := steps_joinPieces_texts hway
  have hhead := head?_joinPieces_texts hway
  have htext := toList_relative hdir htarget
  generalize joinPieces ((way dir target).map (·.text.toList)) = text at htext hread hhead
  unfold isPath IsRelative
  by_cases hempty : way dir target = []
  · rw [htext, if_pos hempty, hempty]
    exact ⟨rfl, by decide, rfl⟩
  · rw [if_neg hempty] at htext
    by_cases hup : ['.', '.'].isPrefixOf text = true
    · rw [htext, if_pos hup]
      obtain ⟨rest, rfl⟩ := List.isPrefixOf_iff_prefix.mp hup
      exact ⟨rfl, hhead, hread⟩
    · rw [htext, if_neg hup]
      exact ⟨rfl, by simp, (steps_dot_slash text).trans hread⟩

/-- As many `..` as there are names take all of them off. -/
theorem foldl_cleanStep_replicate_parent {names : List Component}
    (h : ∀ c ∈ names, c.isName = true) (stack : List Component) :
    (List.replicate names.length Component.parent).foldl cleanStep (names ++ stack) = stack := by
  induction names with
  | nil => rfl
  | cons c names ih =>
    rw [List.length_cons, List.replicate_succ, List.foldl_cons, List.cons_append,
      cleanStep_parent_of_isName (h c (by simp)), ih (fun d hd => h d (by simp [hd]))]

/-- The way from a directory ends at the place. -/
theorem foldl_way {dir target : Path} (hdir : dir.IsRooted) (htarget : target.isAbsolute = true) :
    (way dir target).foldl cleanStep dir.stack = target.stack := by
  obtain ⟨names, hnames, hcomponents⟩ := hdir
  have hstack := IsRooted.stack ⟨names, hnames, hcomponents⟩
  obtain ⟨rest, hrest⟩ := (isAbsolute_iff_components target).mp htarget
  -- both begin with the root and the shared names; the way goes up to where these end
  have hshared : sharedLength dir.components target.components = sharedLength names rest + 1 := by
    rw [hcomponents, hrest, sharedLength, if_pos rfl]
  generalize hk : sharedLength names rest = k at hshared
  have htake : names.take k = rest.take k := by rw [← hk, take_sharedLength]
  have hup : dir.components.length - (k + 1) = (names.drop k).reverse.length := by
    rw [hcomponents]; simp
  have hdirstack : dir.stack
      = (names.drop k).reverse ++ ((names.take k).reverse ++ [Component.root]) := by
    rw [hstack, hcomponents, List.reverse_cons, ← List.append_assoc, ← List.reverse_append,
      List.take_append_drop]
  have htargetstack : target.stack
      = (rest.drop k).foldl cleanStep ((names.take k).reverse ++ [Component.root]) := by
    rw [Path.stack, hrest, List.foldl_cons]
    conv_lhs => rw [← List.take_append_drop k rest, List.foldl_append, ← htake]
    rw [foldl_cleanStep_names (fun c hc => (hnames c (List.mem_of_mem_take hc)).1)]
    rfl
  unfold way
  simp only
  rw [hshared, List.foldl_append, hup, hdirstack, foldl_cleanStep_replicate_parent, hrest,
    List.drop_succ_cons, htargetstack]
  intro c hc
  exact (hnames c (List.mem_of_mem_drop (by simpa using hc))).1

/-- The way from a directory to a place leads to it. -/
theorem joinDir_relative {dir target : Path} (hdir : dir.IsRooted)
    (htarget : target.isAbsolute = true) : dir.joinDir (relative dir target) = target.clean := by
  obtain ⟨-, hrel, hsteps⟩ := relative_spec hdir.isAbsolute htarget
  rw [← clean_joinDir]
  refine clean_eq_of_stack ?_
  rw [stack_joinDir dir hrel, hsteps, foldl_way hdir htarget]

/-- A place written from the root leads to it. -/
theorem joinDir_toSlash (dir : Path) {target : Path} (htarget : target.isAbsolute = true) :
    dir.joinDir target.toSlash = target.clean := by
  rw [joinDir_of_absolute dir (not_isRelative_toSlash htarget)]
  exact Same.clean (components_toSlash htarget)

end Specifier

end DirectImports
