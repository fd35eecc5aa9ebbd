import DirectImports.Path.Clean
import DirectImports.Proofs.Path.Components

/-!
# The stack of a path

The normal form of a path is decided by the stack on which its components end up
(`Path.stack`): `..` takes the last name off, and stays at the root or when there is none. Joining
a relative text pushes its steps (`stack_join`), and a path and its normal form have the same
stack (`stack_clean`). So two paths built in different ways have one normal form as soon as their
stacks agree (`clean_eq_of_stack`).

Main statements:

* `foldl_cleanComponents`: pushing the normal form of a relative path is pushing the path itself,
  whatever lies below;
* `components_clean`: the components of a normal form;
* `IsNormal.isRooted`: an absolute path in normal form is the root and names.
-/

namespace DirectImports

/-! ## One step -/

namespace Component

/-- The component is a name. -/
def isName : Component → Bool
  | .name _ => true
  | _ => false

theorem cleanStep_name (stack : List Component) (n : String) :
    cleanStep stack (.name n) = .name n :: stack := rfl

theorem cleanStep_of_isName {c : Component} (h : c.isName = true) (stack : List Component) :
    cleanStep stack c = c :: stack := by
  cases c with
  | name n => rfl
  | root => cases h
  | current => cases h
  | parent => cases h

/-- `..` takes a name off. -/
theorem cleanStep_parent_of_isName {c : Component} (h : c.isName = true) (stack : List Component) :
    cleanStep (c :: stack) .parent = stack := by
  cases c with
  | name n => rfl
  | root => cases h
  | current => cases h
  | parent => cases h

/-- A step puts nothing on the stack but the component itself. -/
theorem mem_cleanStep {c d : Component} {stack : List Component} (h : c ∈ cleanStep stack d) :
    c ∈ stack ∨ c = d := by
  cases d with
  | root => exact (List.mem_cons.mp h).symm
  | name n => exact (List.mem_cons.mp h).symm
  | current => exact Or.inl h
  | parent =>
    cases stack with
    | nil => exact (List.mem_cons.mp h).symm
    | cons top rest =>
      cases top with
      | root => exact Or.inl h
      | name n => exact Or.inl (List.mem_cons_of_mem _ h)
      | current => exact (List.mem_cons.mp h).symm
      | parent => exact (List.mem_cons.mp h).symm

theorem mem_foldl_cleanStep {c : Component} {cs stack : List Component}
    (h : c ∈ cs.foldl cleanStep stack) : c ∈ stack ∨ c ∈ cs := by
  induction cs generalizing stack with
  | nil => exact Or.inl h
  | cons d cs ih =>
    rcases ih h with hstack | hcs
    · rcases mem_cleanStep hstack with hmem | rfl
      · exact Or.inl hmem
      · exact Or.inr (by simp)
    · exact Or.inr (by simp [hcs])

end Component

namespace Path

open Component

/-! ## Many steps -/

/-- Pushing the normal form of relative components is pushing the components themselves. -/
theorem foldl_cleanComponents {cs : List Component} (h : .root ∉ cs) (stack : List Component) :
    (cleanComponents cs).foldl cleanStep stack = cs.foldl cleanStep stack := by
  induction cs using List.reverseRecOn with
  | nil => rfl
  | append_singleton cs c ih =>
    have hcs : Component.root ∉ cs := fun hc => h (by simp [hc])
    -- what the components before the last one leave on an empty stack
    have hfront : ((cs.foldl cleanStep []).reverse).foldl cleanStep stack
        = cs.foldl cleanStep stack := ih hcs
    unfold cleanComponents
    rw [List.foldl_append, List.foldl_append, List.foldl_cons, List.foldl_nil, List.foldl_cons,
      List.foldl_nil, ← hfront]
    cases c with
    | root => exact absurd (by simp) h
    | current => rfl
    | name n => rw [cleanStep_name, List.reverse_cons, List.foldl_append]; rfl
    | parent =>
      -- only a name on top is taken off, and then it is the last of the normal form
      cases htop : cs.foldl cleanStep [] with
      | nil => rfl
      | cons top rest =>
        cases top with
        | root =>
          have hmem : Component.root ∈ cs.foldl cleanStep [] := by rw [htop]; simp
          rcases mem_foldl_cleanStep hmem with hnil | hroot
          · exact absurd hnil (by simp)
          · exact absurd hroot hcs
        | name n => rw [List.reverse_cons, List.foldl_append]; rfl
        | current =>
          rw [show cleanStep (.current :: rest) .parent = .parent :: .current :: rest from rfl,
            List.reverse_cons, List.foldl_append]
          rfl
        | parent =>
          rw [show cleanStep (.parent :: rest) .parent = .parent :: .parent :: rest from rfl,
            List.reverse_cons, List.foldl_append]
          rfl

/-- Above the root there are only names. -/
theorem foldl_cleanStep_root {names cs : List Component} (hnames : ∀ c ∈ names, c.isName = true)
    (hcs : .root ∉ cs) :
    ∃ kept, (∀ c ∈ kept, c.isName = true)
      ∧ cs.foldl cleanStep (names ++ [.root]) = kept ++ [.root] := by
  induction cs generalizing names with
  | nil => exact ⟨names, hnames, rfl⟩
  | cons c cs ih =>
    have htail : Component.root ∉ cs := fun hc => hcs (by simp [hc])
    rw [List.foldl_cons]
    cases c with
    | root => exact absurd (by simp) hcs
    | current => exact ih hnames htail
    | name n =>
      have hmore : ∀ d ∈ Component.name n :: names, d.isName = true := by
        intro d hd
        rcases List.mem_cons.mp hd with rfl | hmem
        · rfl
        · exact hnames d hmem
      exact ih hmore htail
    | parent =>
      cases names with
      | nil => exact ih hnames htail
      | cons top rest =>
        rw [List.cons_append, cleanStep_parent_of_isName (hnames top (by simp))]
        exact ih (fun d hd => hnames d (by simp [hd])) htail

/-- Names are pushed one after the other. -/
theorem foldl_cleanStep_names {cs : List Component} (h : ∀ c ∈ cs, c.isName = true)
    (stack : List Component) : cs.foldl cleanStep stack = cs.reverse ++ stack := by
  induction cs generalizing stack with
  | nil => rfl
  | cons c cs ih =>
    rw [List.foldl_cons, cleanStep_of_isName (h c (by simp)), ih (fun d hd => h d (by simp [hd]))]
    simp

/-! ## The stack of a path -/

/-- The stack on which the components of a path end up, the last one on top. -/
def stack (path : Path) : List Component :=
  path.components.foldl cleanStep []

theorem cleanComponents_components (path : Path) :
    cleanComponents path.components = path.stack.reverse := rfl

/-- The stack decides about the normal form. -/
theorem clean_eq_of_stack {p q : Path} (h : p.stack = q.stack) : p.clean = q.clean := by
  unfold clean
  rw [cleanComponents_components, cleanComponents_components, h]

theorem Same.stack {p q : Path} (h : p.Same q) : p.stack = q.stack := by
  rw [Path.stack, Path.stack, show p.components = q.components from h]

theorem Same.clean {p q : Path} (h : p.Same q) : p.clean = q.clean :=
  clean_eq_of_stack h.stack

theorem root_not_mem_steps (text : List Char) : Component.root ∉ steps text :=
  fun h => not_isStep_root (isStep_of_mem_steps h)

theorem stack_of_isAbsolute {path : Path} (h : path.isAbsolute = true) :
    path.stack = (steps path.text.toList).foldl cleanStep [.root] := by
  rw [stack, components_of_isAbsolute h]
  rfl

theorem stack_of_not_isAbsolute {path : Path} (h : path.isAbsolute = false) :
    path.stack = (steps path.text.toList).foldl cleanStep [] := by
  rw [stack, components_eq]
  cases hanchor : anchorOf path.text.toList with
  | root => rw [(isAbsolute_iff_anchorOf path).mpr hanchor] at h; cases h
  | current => rfl
  | none => rfl

/-- The stack of an absolute path: names above the root. -/
theorem exists_stack_of_isAbsolute {path : Path} (h : path.isAbsolute = true) :
    ∃ names, (∀ c ∈ names, c.isName = true ∧ c.IsStep) ∧ path.stack = names ++ [.root] := by
  have hnone : ∀ c ∈ ([] : List Component), c.isName = true := by simp
  obtain ⟨names, hnames, hstack⟩ :=
    foldl_cleanStep_root hnone (root_not_mem_steps path.text.toList)
  rw [stack_of_isAbsolute h]
  refine ⟨names, fun c hc => ⟨hnames c hc, ?_⟩, hstack⟩
  have hmem : c ∈ (steps path.text.toList).foldl cleanStep [.root] := by
    rw [show [Component.root] = [] ++ [Component.root] from rfl, hstack]
    exact List.mem_append_left _ hc
  rcases mem_foldl_cleanStep hmem with hroot | hstep
  · rw [List.mem_singleton] at hroot
    exact absurd (hnames c hc) (by simp [hroot, isName])
  · exact isStep_of_mem_steps hstep

theorem isStep_of_mem_stack {path : Path} (h : path.isAbsolute = false) {c : Component}
    (hc : c ∈ path.stack) : c.IsStep := by
  rw [stack_of_not_isAbsolute h] at hc
  rcases mem_foldl_cleanStep hc with hnil | hstep
  · exact absurd hnil (by simp)
  · exact isStep_of_mem_steps hstep

/-! ## Normal forms -/

/-- What stands on the stack are the components of the normal form; `.` stands for none. -/
theorem components_clean (path : Path) :
    path.clean.components = if path.stack = [] then [.current] else path.stack.reverse := by
  unfold clean
  rw [cleanComponents_components]
  by_cases habs : path.isAbsolute = true
  · obtain ⟨names, hnames, hstack⟩ := exists_stack_of_isAbsolute habs
    have hreverse : path.stack.reverse = Anchor.root.components ++ names.reverse := by
      rw [hstack]; simp [Anchor.components]
    rw [if_neg (by rw [hstack]; simp)]
    split
    · next hnil => rw [hreverse] at hnil; simp [Anchor.components] at hnil
    · rw [hreverse, components_ofComponents .root (fun c hc => (hnames c (by simpa using hc)).2)]
  · have hrel : path.isAbsolute = false := by simpa using habs
    by_cases hempty : path.stack = []
    · rw [hempty, if_pos rfl]
      decide
    · rw [if_neg hempty]
      split
      · next hnil => exact absurd (by simpa using hnil) hempty
      · exact components_ofComponents .none
          (fun c hc => isStep_of_mem_stack hrel (by simpa using hc))

theorem isAbsolute_clean (path : Path) : path.clean.isAbsolute = path.isAbsolute := by
  rw [Bool.eq_iff_iff, isAbsolute_iff_components, components_clean]
  by_cases habs : path.isAbsolute = true
  · obtain ⟨names, -, hstack⟩ := exists_stack_of_isAbsolute habs
    rw [hstack]
    simp [habs]
  · have hrel : path.isAbsolute = false := by simpa using habs
    rw [hrel]
    simp only [Bool.false_eq_true, iff_false, not_exists]
    intro rest hrest
    split at hrest
    · cases hrest
    · have hmem : Component.root ∈ path.stack := by
        rw [← List.mem_reverse, hrest]; simp
      exact not_isStep_root (isStep_of_mem_stack hrel hmem)

/-- A path and its normal form have the same stack. -/
theorem stack_clean (path : Path) : path.clean.stack = path.stack := by
  rw [stack, components_clean]
  by_cases habs : path.isAbsolute = true
  · obtain ⟨names, hnames, hstack⟩ := exists_stack_of_isAbsolute habs
    rw [if_neg (by rw [hstack]; simp), hstack, List.reverse_append, List.reverse_singleton,
      List.singleton_append, List.foldl_cons]
    rw [foldl_cleanStep_names (fun c hc => (hnames c (by simpa using hc)).1)]
    simp [cleanStep]
  · have hrel : path.isAbsolute = false := by simpa using habs
    split
    · next hempty => rw [hempty]; rfl
    · rw [stack_of_not_isAbsolute hrel]
      exact foldl_cleanComponents (root_not_mem_steps _) []

theorem clean_clean (path : Path) : path.clean.clean = path.clean :=
  clean_eq_of_stack (stack_clean path)

theorem isNormal_clean {path : Path} (h : path.isAbsolute = true) : path.clean.IsNormal :=
  ⟨by rw [isAbsolute_clean]; exact h, clean_clean path⟩

/-- The components are the root and names, so `..` is resolved. -/
def IsRooted (path : Path) : Prop :=
  ∃ names, (∀ c ∈ names, c.isName = true ∧ c.IsStep) ∧ path.components = .root :: names

/-- An absolute path in normal form is the root and names. -/
theorem IsNormal.isRooted {path : Path} (h : path.IsNormal) : path.IsRooted := by
  obtain ⟨names, hnames, hstack⟩ := exists_stack_of_isAbsolute h.1
  refine ⟨names.reverse, fun c hc => hnames c (by simpa using hc), ?_⟩
  rw [← h.2, components_clean, if_neg (by rw [hstack]; simp), hstack]
  simp

theorem IsRooted.isAbsolute {path : Path} (h : path.IsRooted) : path.isAbsolute = true := by
  obtain ⟨names, -, hcomponents⟩ := h
  exact (isAbsolute_iff_components path).mpr ⟨names, hcomponents⟩

theorem IsRooted.stack {path : Path} (h : path.IsRooted) :
    path.stack = path.components.reverse := by
  obtain ⟨names, hnames, hcomponents⟩ := h
  rw [Path.stack, hcomponents, List.foldl_cons, foldl_cleanStep_names (fun c hc => (hnames c hc).1)]
  simp [cleanStep]

/-- The directory above a place without `..` is one. -/
theorem IsRooted.parent? {path parent : Path} (h : path.IsRooted)
    (hparent : path.parent? = some parent) : parent.IsRooted := by
  obtain ⟨names, hnames, hcomponents⟩ := h
  cases hcase : names with
  | nil =>
    rw [(parent?_eq_none_iff path).mpr (Or.inr (by rw [hcomponents, hcase]))] at hparent
    cases hparent
  | cons first rest =>
    refine ⟨names.dropLast, fun c hc => hnames c (List.dropLast_subset _ hc), ?_⟩
    rw [components_parent? hparent, hcomponents, hcase, List.dropLast_cons_cons]

/-- An entry of a place without `..` is one. -/
theorem IsRooted.join_name {path : Path} (h : path.IsRooted) {name : String}
    (hname : (Component.name name).IsStep) : (path.join name).IsRooted := by
  obtain ⟨names, hnames, hcomponents⟩ := h
  refine ⟨names ++ [.name name], ?_, ?_⟩
  · intro c hc
    rcases List.mem_append.mp hc with hold | hnew
    · exact hnames c hold
    · rw [List.mem_singleton.mp hnew]
      exact ⟨rfl, hname⟩
  · rw [← List.cons_append, ← hcomponents]
    exact components_join_step (c := .name name) hname

/-- Normal forms with the same components are the same text. -/
theorem eq_of_same_of_clean {p q : Path} (hp : p.clean = p) (hq : q.clean = q) (h : p.Same q) :
    p = q := by
  rw [← hp, ← hq]
  exact h.clean

/-- Two absolute paths in normal form with the same components are one. -/
theorem IsNormal.eq_of_same {p q : Path} (hp : p.IsNormal) (hq : q.IsNormal) (h : p.Same q) :
    p = q :=
  eq_of_same_of_clean hp.2 hq.2 h

end Path

end DirectImports
