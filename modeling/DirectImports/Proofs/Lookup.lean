import DirectImports.Barrel.Lookup
import DirectImports.FileSystem.Disk
import DirectImports.FileSystem.Fixture
import DirectImports.Proofs.Path.Tidy

/-!
# What lookup finds

A path leads to itself, to an entry of the directory it is, or to an entry of the directory it is
in (`locate_cases`). Where directories list plain names, the file that a normal form leads to is
written without superfluous text (`isTidy_of_locate`), and its directory can be told from its
components.

A disk lists plain names if it holds no others (`Disk.isRegular_view`), and so does a fixture, which
moreover reads a path by its components (`Fixture.read_of_same`).
-/

namespace DirectImports

namespace Path

/-- The directory from which the specifiers of a file start. -/
def dir (file : Path) : Path :=
  file.parent?.getD ⟨""⟩

theorem Same.dir {p q : Path} (h : p.Same q) : p.dir.Same q.dir :=
  h.parent?

theorem components_dir {path : Path} (habs : path.isAbsolute = true)
    (hroot : path.components ≠ [.root]) : path.dir.components = path.components.dropLast := by
  unfold dir
  cases hparent : path.parent? with
  | none =>
    rcases (parent?_eq_none_iff path).mp hparent with hnil | honly
    · rw [components_of_isAbsolute habs] at hnil
      cases hnil
    · exact absurd honly hroot
  | some parent => exact components_parent? hparent

/-- The directory of an entry is where it is an entry. -/
theorem dir_join_step {path : Path} {c : Component} (hc : c.IsStep) :
    (path.join c.text).dir.Same path := by
  unfold dir
  cases hparent : (path.join c.text).parent? with
  | none =>
    rcases (parent?_eq_none_iff _).mp hparent with hnil | honly
    · rw [components_join_step hc] at hnil
      exact absurd hnil (by simp)
    · rw [components_join_step hc] at honly
      have hmem : c ∈ [Component.root] := by rw [← honly]; simp
      exact absurd (List.mem_singleton.mp hmem ▸ hc) not_isStep_root
  | some parent =>
    show parent.components = path.components
    rw [components_parent? hparent, components_join_step hc, List.dropLast_concat]

end Path

/-- The working directory is absolute, and directories list plain names. -/
structure FileSystem.IsRegular (fs : FileSystem) : Prop where
  isAbsolute_cwd : ∀ dir, fs.cwd = .ok dir → dir.isAbsolute = true
  isStep_of_list : ∀ dir entries, fs.list dir = .ok entries →
    ∀ entry ∈ entries, (Component.name entry).IsStep

/-- What stands at the root, if anything does, is a directory. -/
def FileSystem.HasRootDirectory (fs : FileSystem) : Prop :=
  ∀ metadata, fs.metadata ⟨"/"⟩ = .ok metadata → metadata.isDir = true

theorem FileSystem.hasRootDirectory_of_metadata {fs : FileSystem} {metadata : Metadata}
    (h : fs.metadata ⟨"/"⟩ = .ok metadata) (hdir : metadata.isDir = true) :
    fs.HasRootDirectory := by
  intro found hfound
  cases h.symm.trans hfound
  exact hdir

/-! ## The least candidate -/

/-- The least candidate is one of them. -/
theorem Lookup.mem_of_least? {key : String → Key} {candidates : List String} {entry : String}
    (h : least? key candidates = some entry) : entry ∈ candidates := by
  cases candidates with
  | nil => cases h
  | cons first rest =>
    cases h
    have hstep : ∀ best, rest.foldl (fun best entry =>
        if (key entry).less (key best) then entry else best) best ∈ best :: rest := by
      induction rest with
      | nil => intro best; simp
      | cons next rest ih =>
        intro best
        rw [List.foldl_cons]
        split
        · exact List.mem_cons_of_mem _ (ih next)
        · rcases List.mem_cons.mp (ih best) with heq | hmem
          · rw [heq]; simp
          · exact List.mem_cons_of_mem _ (List.mem_cons_of_mem _ hmem)
    exact hstep first

namespace FileSystem

variable {fs : FileSystem} {path file : Path}

open Lookup

/-! ## What stands at a path -/

/-- A directory is there. -/
def isDirectory (fs : FileSystem) (path : Path) : Bool :=
  match fs.metadata path with
  | .ok metadata => metadata.isDir
  | .error _ => false

/-- Nothing is there. -/
def isAbsent (fs : FileSystem) (path : Path) : Bool :=
  match fs.metadata path with
  | .ok _ => false
  | .error cause => cause.isNotFound

/-! ## The three ways -/

theorem locateIndex_eq_ok (h : fs.locateIndex path = .ok file) :
    ∃ entries entry, fs.list path = .ok entries ∧ entry ∈ entries ∧ file = path.join entry
      ∧ fs.isFile file = true := by
  unfold locateIndex at h
  split at h
  · next entries hlist =>
    split at h
    · next entry hindex =>
      cases h
      obtain ⟨hmem, hfound⟩ := List.mem_filter.mp (mem_of_least? hindex)
      exact ⟨entries, entry, hlist, hmem, rfl, (Bool.and_eq_true_iff.mp hfound).2⟩
    · cases h
  · cases h

theorem locateSibling_eq_ok (h : fs.locateSibling path = .ok file) :
    ∃ base parent entries entry, path.fileName? = some base ∧ path.parent? = some parent
      ∧ fs.list parent = .ok entries ∧ entry ∈ entries ∧ file = parent.join entry
      ∧ fs.isFile file = true := by
  unfold locateSibling at h
  split at h
  · next base parent hbase hparent =>
    split at h
    · next entries hlist =>
      simp only at h
      split at h
      · next entry hleast =>
        cases h
        obtain ⟨hmem, hfound⟩ := List.mem_filter.mp (mem_of_least? hleast)
        exact ⟨base, parent, entries, entry, hbase, hparent, hlist, hmem, rfl,
          (Bool.and_eq_true_iff.mp hfound).2⟩
      · cases h
    · split at h <;> cases h
  · cases h

/-- A path leads to itself, to a file in it, or to a file beside it. -/
theorem locate_cases (h : fs.locate path = .ok file) :
    (file = path ∧ ∃ metadata, fs.metadata path = .ok metadata ∧ metadata.isDir = false)
      ∨ (∃ entries entry, fs.list path = .ok entries ∧ entry ∈ entries ∧ file = path.join entry
          ∧ fs.isFile file = true)
      ∨ (∃ base parent entries entry, path.fileName? = some base ∧ path.parent? = some parent
          ∧ fs.list parent = .ok entries ∧ entry ∈ entries ∧ file = parent.join entry
          ∧ fs.isFile file = true) := by
  unfold locate at h
  split at h
  · next metadata hmetadata =>
    split at h
    · exact Or.inr (Or.inl (locateIndex_eq_ok h))
    · next hdir =>
      cases h
      exact Or.inl ⟨rfl, metadata, hmetadata, by simpa using hdir⟩
  · split at h
    · exact Or.inr (Or.inr (locateSibling_eq_ok h))
    · cases h

/-! ## Regular file systems -/

/-- In a regular file system a normal form leads to a tidy path. -/
theorem IsRegular.isTidy_of_locate (hfs : fs.IsRegular) (hpath : path.clean = path)
    (h : fs.locate path = .ok file) : file.IsTidy := by
  have htidy : path.IsTidy := hpath ▸ path.isTidy_clean
  rcases locate_cases h with ⟨rfl, -⟩ | ⟨entries, entry, hlist, hmem, rfl, -⟩
    | ⟨base, parent, entries, entry, -, hparent, hlist, hmem, rfl, -⟩
  · exact htidy
  · exact htidy.join_step (c := .name entry) (hfs.isStep_of_list _ _ hlist entry hmem)
  · exact (htidy.parent? hparent).join_step (c := .name entry)
      (hfs.isStep_of_list _ _ hlist entry hmem)

/-- The directory of the file that a path leads to is the path or the directory above it. -/
theorem IsRegular.dir_of_locate (hfs : fs.IsRegular) (hroot : fs.HasRootDirectory)
    (hpath : path.IsNormal) (h : fs.locate path = .ok file) :
    file.dir.Same path
      ∨ (path.components ≠ [.root] ∧ file.dir.components = path.components.dropLast) := by
  rcases locate_cases h with ⟨rfl, metadata, hmetadata, hfile⟩
    | ⟨entries, entry, hlist, hmem, rfl, -⟩
    | ⟨base, parent, entries, entry, -, hparent, hlist, hmem, rfl, -⟩
  · have hne : file.components ≠ [.root] := by
      intro honly
      have heq : file = ⟨"/"⟩ := hpath.eq_of_same (by decide) honly
      rw [hroot metadata (heq ▸ hmetadata)] at hfile
      cases hfile
    exact Or.inr ⟨hne, Path.components_dir hpath.1 hne⟩
  · exact Or.inl (Path.dir_join_step (c := .name entry) (hfs.isStep_of_list _ _ hlist entry hmem))
  · refine Or.inr ⟨?_, ?_⟩
    · intro honly
      rw [(Path.parent?_eq_none_iff path).mpr (Or.inr honly)] at hparent
      cases hparent
    · rw [← Path.components_parent? hparent]
      exact Path.dir_join_step (c := .name entry) (hfs.isStep_of_list _ _ hlist entry hmem)

end FileSystem

/-! ## Stores -/

/-- The location of a text is what its steps lead to from the root. -/
theorem Location.ofText_eq_foldl (text : String) :
    ofText text = ((Path.steps text.toList).foldl
      (fun stack c => if c = .parent then stack.tail else c.text :: stack) []).reverse := by
  rw [Path.steps, List.foldl_filterMap, ofText]
  congr 2
  funext stack piece
  cases hpiece : Path.componentOfPiece? piece with
  | none => rw [if_pos (Path.componentOfPiece?_eq_none_iff.mp hpiece)]
  | some c =>
    have htext := Path.text_of_componentOfPiece? hpiece
    have hcounts : ¬(piece = [] ∨ piece = ['.']) := by
      rw [← Path.componentOfPiece?_eq_none_iff, hpiece]
      simp
    have hparent : piece = ['.', '.'] ↔ c = .parent := by
      constructor
      · rintro rfl; cases hpiece; rfl
      · rintro rfl; exact htext.symm
    rw [if_neg hcounts, ← htext, String.ofList_toList, htext]
    simp only [hparent]

/-- The location of a text depends only on its steps. -/
theorem Location.ofText_of_steps {text other : String}
    (h : Path.steps text.toList = Path.steps other.toList) : ofText text = ofText other := by
  rw [ofText_eq_foldl, ofText_eq_foldl, h]

/-- The names in a directory are names of locations. -/
theorem Table.exists_of_mem_children {table : Table α} {dir : Location} {name : String}
    (h : name ∈ table.children dir) : ∃ entry ∈ table, name ∈ entry.1 := by
  obtain ⟨entry, hentry, hsome⟩ := List.mem_filterMap.mp h
  unfold Location.nameIn? at hsome
  split at hsome
  · exact ⟨entry, hentry, List.mem_of_mem_getLast? hsome⟩
  · cases hsome

/-- All names are plain. -/
def Table.IsPlain (table : Table α) : Prop :=
  ∀ entry ∈ table, ∀ name ∈ entry.1, (Component.name name).IsStep

instance (table : Table α) : Decidable table.IsPlain :=
  inferInstanceAs (Decidable (∀ entry ∈ table, _))

namespace Fixture

/-- A fixture lists children. -/
theorem list_eq_ok {fixture : Fixture} {dir : Path} {names : List String}
    (h : fixture.list dir = .ok names) :
    names = fixture.entries.children (fixture.locationOf dir) := by
  unfold list at h
  cases hfind : fixture.find "read directory" dir with
  | error error => rw [hfind] at h; cases h
  | ok content =>
    rw [hfind] at h
    cases content <;> cases h
    rfl

/-- A fixture is regular if its working directory is absolute and all its names are plain. -/
theorem isRegular_view {fixture : Fixture} (hcwd : ∀ dir ∈ fixture.cwd, dir.isAbsolute = true)
    (hplain : fixture.entries.IsPlain) : fixture.view.IsRegular where
  isAbsolute_cwd := by
    intro dir h
    simp only [view] at h
    split at h
    · next hsome => cases h; exact hcwd _ hsome
    · cases h
  isStep_of_list := by
    intro dir entries hlist name hname
    rw [list_eq_ok hlist] at hname
    obtain ⟨entry, hentry, hmem⟩ := Table.exists_of_mem_children hname
    exact hplain entry hentry name hmem

/-- The location of a path does not depend on how the path is written. -/
theorem locationOf_of_same (fixture : Fixture) {p q : Path} (h : p.Same q) :
    fixture.locationOf p = fixture.locationOf q := by
  have habs : p.isAbsolute = true ↔ q.isAbsolute = true := by
    rw [Path.isAbsolute_iff_components, Path.isAbsolute_iff_components, h]
  have hrelative : Path.IsRelative p.text ↔ Path.IsRelative q.text := by
    simpa [Path.isAbsolute, Path.IsRelative] using not_congr habs
  apply Location.ofText_of_steps
  rw [Path.steps_join, Path.steps_join, h.steps]
  simp only [hrelative]

theorem find_eq_ok_iff {fixture : Fixture} (action : String) {path : Path} {content : Content} :
    fixture.find action path = .ok content
      ↔ fixture.entries.get? (fixture.locationOf path) = some content := by
  unfold find
  simp only
  split
  · next found hget => simp [hget]
  · next hget =>
    rw [hget]
    split <;> simp

theorem read_eq_ok_iff {fixture : Fixture} {path : Path} {text : String} :
    fixture.read path = .ok text
      ↔ fixture.entries.get? (fixture.locationOf path) = some (.file text) := by
  rw [← find_eq_ok_iff "read"]
  unfold read
  cases fixture.find "read" path with
  | error error => simp [bind, Except.bind]
  | ok content => cases content <;> simp [bind, Except.bind, pure, Except.pure, throw, throwThe,
      MonadExceptOf.throw]

/-- What a fixture reads does not depend on how the path is written. -/
theorem read_of_same {fixture : Fixture} {p q : Path} (h : p.Same q) {text : String}
    (hread : fixture.read p = .ok text) : fixture.read q = .ok text := by
  rw [read_eq_ok_iff, ← locationOf_of_same fixture h]
  exact read_eq_ok_iff.mp hread

end Fixture

namespace Disk

/-- A disk lists children. -/
theorem exists_of_list_eq_ok {disk : Disk} {dir : Path} {names : List String}
    (h : disk.view.list dir = .ok names) : ∃ location, names = disk.nodes.children location := by
  change describe "read directory" dir (disk.listNames dir) = .ok names at h
  unfold describe listNames at h
  cases hlocate : disk.locate dir with
  | error error => rw [hlocate] at h; cases h
  | ok found =>
    obtain ⟨location, node⟩ := found
    rw [hlocate] at h
    cases node <;> cases h
    exact ⟨location, rfl⟩

/-- A disk is regular if all its names are plain. -/
theorem isRegular_view {disk : Disk} (hplain : disk.nodes.IsPlain) : disk.view.IsRegular where
  isAbsolute_cwd := by
    intro dir h
    cases h
    simp [Path.isAbsolute, Location.toPath]
  isStep_of_list := by
    intro dir entries hlist name hname
    obtain ⟨location, rfl⟩ := exists_of_list_eq_ok hlist
    obtain ⟨entry, hentry, hmem⟩ := Table.exists_of_mem_children hname
    exact hplain entry hentry name hmem

end Disk

end DirectImports
