import DirectImports.Proofs.Candidates
import DirectImports.Transform

/-!
# The order of listings

Two file systems may list the names of a directory in different orders and agree in everything else
(`FileSystem.ListsAlike`). Only lookup looks at listings, and of the names that it finds there it
takes the least in an order of its own. Both orders in use tell any two names apart
(`Lookup.indexKey_injective`, `Lookup.siblingKey_injective`), so the two file systems lead every
path to the same file (`ListsAlike.locate_eq`). All the rest sees a directory through lookup alone,
and answers the same on both (`answers_eq_of_listsAlike`).
-/

namespace DirectImports

/-- Two listings hold the same names, or both fail for the same reason. -/
def SameListing : Except FileError (List String) → Except FileError (List String) → Prop
  | .ok entries, .ok others => entries.Perm others
  | .error cause, .error other => cause = other
  | _, _ => False

/-- Two file systems differ at most in the order of their listings. -/
structure FileSystem.ListsAlike (fs other : FileSystem) : Prop where
  read_eq : fs.read = other.read
  metadata_eq : fs.metadata = other.metadata
  sameListing : ∀ dir, SameListing (fs.list dir) (other.list dir)
  cwd_eq : fs.cwd = other.cwd
  depth_eq : fs.depth = other.depth

namespace FileSystem.ListsAlike

variable {fs other : FileSystem} (h : fs.ListsAlike other)
include h

/-! ## Lookup -/

/-- What a directory lists, in two orders, or why both list nothing. -/
theorem list_cases (dir : Path) :
    (∃ entries others, fs.list dir = .ok entries ∧ other.list dir = .ok others
        ∧ entries.Perm others)
      ∨ ∃ cause, fs.list dir = .error cause ∧ other.list dir = .error cause := by
  have hsame := h.sameListing dir
  unfold SameListing at hsame
  split at hsame
  · next entries others hfs hother => exact Or.inl ⟨entries, others, hfs, hother, hsame⟩
  · next cause found hfs hother =>
    subst hsame
    exact Or.inr ⟨cause, hfs, hother⟩
  · exact hsame.elim

theorem isFile_eq (path : Path) : fs.isFile path = other.isFile path := by
  unfold isFile
  rw [h.metadata_eq]

/-- The names that satisfy a condition are the same, in whatever order they are listed. -/
theorem mem_filter_iff {entries others : List String} (hperm : entries.Perm others) (dir : Path)
    (condition : String → Bool) (entry : String) :
    entry ∈ entries.filter (fun entry => condition entry && fs.isFile (dir.join entry))
      ↔ entry ∈ others.filter (fun entry => condition entry && other.isFile (dir.join entry)) := by
  simp only [h.isFile_eq]
  exact (hperm.filter _).mem_iff

theorem locateIndex_eq (dir : Path) : fs.locateIndex dir = other.locateIndex dir := by
  unfold locateIndex indexFile?
  rcases h.list_cases dir with ⟨entries, others, hfs, hother, hperm⟩ | ⟨cause, hfs, hother⟩
  · rw [hfs, hother]
    dsimp only
    rw [Lookup.least?_eq_of_mem_iff Lookup.indexKey_injective (h.mem_filter_iff hperm dir _)]
  · rw [hfs, hother]

theorem locateSibling_eq (path : Path) : fs.locateSibling path = other.locateSibling path := by
  unfold locateSibling
  split
  · next base parent _ _ =>
    rcases h.list_cases parent with ⟨entries, others, hfs, hother, hperm⟩ | ⟨cause, hfs, hother⟩
    · rw [hfs, hother]
      dsimp only
      rw [Lookup.least?_eq_of_mem_iff (Lookup.siblingKey_injective base)
        (h.mem_filter_iff hperm parent _)]
    · rw [hfs, hother]
  · rfl

/-- Every path leads to the same file, or fails to for the same reason. -/
theorem locate_eq (path : Path) : fs.locate path = other.locate path := by
  unfold locate
  rw [h.metadata_eq, h.locateIndex_eq, h.locateSibling_eq]

/-! ## Flattening -/

theorem absolute_eq (path : Path) : fs.absolute path = other.absolute path := by
  unfold absolute
  rw [h.cwd_eq]

/-- A walk sees no difference. -/
theorem modules_eq : fs.modules = other.modules := by
  unfold modules
  rw [h.read_eq, funext h.locate_eq]

theorem flatten_eq (path : Path) : fs.flatten path = other.flatten path := by
  unfold flatten
  rw [h.absolute_eq, h.modules_eq, h.depth_eq]

theorem flattenOnce_eq (path : Path) : fs.flattenOnce path = other.flattenOnce path := by
  unfold flattenOnce
  rw [h.absolute_eq, funext h.flatten_eq]

/-! ## Redirecting -/

theorem make_eq (barrels : List Path) (style : SpecifierStyle) :
    Redirector.make fs barrels style = Redirector.make other barrels style := by
  unfold Redirector.make
  rw [funext h.absolute_eq]

theorem target?_eq (redirector : Redirector) (importer : Path) (source : String) :
    redirector.target? fs importer source = redirector.target? other importer source := by
  unfold Redirector.target?
  rw [h.absolute_eq]

theorem redirect_eq (redirector : Redirector) (importer : Path) (statement : ImportStatement) :
    redirector.redirect fs importer statement = redirector.redirect other importer statement := by
  unfold Redirector.redirect
  rw [h.target?_eq, h.absolute_eq, funext h.flattenOnce_eq]

theorem editItem_eq (redirector : Redirector) (path : Path) (done : List Edit × List Diagnostic)
    (item : Source.Item) :
    redirector.editItem fs path done item = redirector.editItem other path done item := by
  unfold Redirector.editItem
  rw [funext (h.redirect_eq redirector path)]

theorem transform_eq (redirector : Redirector) (path : Path) (source : String) :
    redirector.transform fs path source = redirector.transform other path source := by
  have hedit : redirector.editItem fs path = redirector.editItem other path :=
    funext fun done => funext fun item => h.editItem_eq redirector path done item
  unfold Redirector.transform
  rw [hedit]

end FileSystem.ListsAlike

/-! ## Answers -/

/-- File systems that differ in the order of their listings give the same answers: to lookup, to
flattening, and from every cache to redirecting a statement and to transforming a text. -/
theorem FileSystem.answers_eq_of_listsAlike {fs other : FileSystem} (h : fs.ListsAlike other) :
    (∀ path, fs.locate path = other.locate path)
      ∧ (∀ path, fs.flatten path = other.flatten path)
      ∧ (∀ barrels style importer statement cache,
          ((Redirector.make fs barrels style).redirect fs importer statement).run.run cache
            = ((Redirector.make other barrels style).redirect other importer statement).run.run
                cache)
      ∧ ∀ barrels style path source cache,
          ((Redirector.make fs barrels style).transform fs path source).run.run cache
            = ((Redirector.make other barrels style).transform other path source).run.run
                cache := by
  refine ⟨h.locate_eq, h.flatten_eq, ?_, ?_⟩
  · intro barrels style importer statement cache
    rw [h.make_eq, h.redirect_eq]
  · intro barrels style path source cache
    rw [h.make_eq, h.transform_eq]

/-- A file system that lists every directory the other way round. -/
def FileSystem.listedBackwards (fs : FileSystem) : FileSystem :=
  { fs with list := fun dir => (fs.list dir).map List.reverse }

theorem FileSystem.listsAlike_listedBackwards (fs : FileSystem) :
    fs.ListsAlike fs.listedBackwards where
  read_eq := rfl
  metadata_eq := rfl
  sameListing := by
    intro dir
    show SameListing (fs.list dir) ((fs.list dir).map List.reverse)
    cases fs.list dir with
    | ok entries => exact (List.reverse_perm entries).symm
    | error cause => exact rfl
  cwd_eq := rfl
  depth_eq := rfl

/-- A barrel that lists its index file between others that could be meant, and exports a module
that three files could be. -/
def Fixture.manyCandidates : Fixture :=
  (((((Fixture.empty (some ⟨"/"⟩)).add ⟨"/b/index.js"⟩ (.file "export const A = 1;")).add
    ⟨"/b/x.js"⟩ (.file "export const C = 1;")).add
    ⟨"/b/index.ts"⟩ (.file "export * from './x';")).add
    ⟨"/b/x.tsx"⟩ (.file "export const B = 1;")).add
    ⟨"/b/an-index.ts"⟩ (.file "export const D = 1;")

theorem FileSystem.answers_eq_manyCandidates :
    Fixture.manyCandidates.view.ListsAlike Fixture.manyCandidates.view.listedBackwards
      ∧ Fixture.manyCandidates.view.list ⟨"/b"⟩
          = .ok ["index.js", "x.js", "index.ts", "x.tsx", "an-index.ts"]
      ∧ Fixture.manyCandidates.view.listedBackwards.list ⟨"/b"⟩
          = .ok ["an-index.ts", "x.tsx", "index.ts", "x.js", "index.js"]
      ∧ Fixture.manyCandidates.view.flatten ⟨"/b"⟩
          = .ok ⟨⟨"/b"⟩, ⟨"/b/index.ts"⟩, [("B", ⟨"./x", none⟩)], []⟩
      ∧ Fixture.manyCandidates.view.listedBackwards.flatten ⟨"/b"⟩
          = .ok ⟨⟨"/b"⟩, ⟨"/b/index.ts"⟩, [("B", ⟨"./x", none⟩)], []⟩ := by
  have halike := Fixture.manyCandidates.view.listsAlike_listedBackwards
  have hflatten : Fixture.manyCandidates.view.flatten ⟨"/b"⟩
      = .ok ⟨⟨"/b"⟩, ⟨"/b/index.ts"⟩, [("B", ⟨"./x", none⟩)], []⟩ := by decide +kernel
  refine ⟨halike, by decide +kernel, by decide +kernel, hflatten, ?_⟩
  rw [← (FileSystem.answers_eq_of_listsAlike halike).2.1]
  exact hflatten

end DirectImports
