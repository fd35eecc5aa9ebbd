import DirectImports.Proofs.Flatten.Replay
import DirectImports.Proofs.Flatten.Visits
import Mathlib.Logic.Relation

/-!
# Which files a walk goes through

The files of a file system form a graph: an `export *` leads from one to another
(`Modules.Edge`). A walk follows these edges and turns back where a chain comes to a file that it
holds already; it remembers nothing else, so a file may be gone through many times.

Turning back loses nothing: from a chain that meets a file twice the part between the two can be
cut out (`ReachesPast.restart`), so a file that can be reached at all can be reached by a chain on
which the walk never turns back. Hence the names of a flattened barrel are exactly those offered by
the files that its index file reaches (`mem_names_flatten_iff`).
-/

namespace DirectImports

namespace Modules

variable {modules : Modules}

/-! ## The graph of files -/

/-- An `export *` of a file leads to another one. -/
def Edge (modules : Modules) (file next : Path) : Prop :=
  ∃ surface source, modules.surface file = .ok surface ∧ .wildcard source ∈ surface.declarations
    ∧ Specifier.isPath source = true ∧ modules.locate (file.dir.joinDir source) = .ok next

/-- A chain of `export *` leads from one file to another. -/
def Reaches (modules : Modules) : Path → Path → Prop :=
  Relation.ReflTransGen modules.Edge

/-- Some path in normal form leads to the file. -/
def IsLocated (modules : Modules) (file : Path) : Prop :=
  ∃ path, path.clean = path ∧ modules.locate path = .ok file

/-- Whatever way leads to a file, it reads the same. -/
def Consistent (modules : Modules) : Prop :=
  ∀ file other surface, modules.IsLocated file → modules.IsLocated other → file.Same other →
    modules.surface file = .ok surface → modules.surface other = .ok surface

theorem Edge.isLocated {file next : Path} (h : modules.Edge file next) :
    modules.IsLocated next := by
  obtain ⟨surface, source, -, -, -, hlocate⟩ := h
  exact ⟨_, Path.clean_joinDir _ _, hlocate⟩

/-- Whatever a located file reaches is located. -/
theorem Reaches.isLocated {file last : Path} (h : modules.Reaches file last)
    (hfile : modules.IsLocated file) : modules.IsLocated last := by
  induction h with
  | refl => exact hfile
  | tail _ hedge _ => exact hedge.isLocated

/-- The edges of a file do not depend on the way that led to it. -/
theorem Edge.of_same (hconsistent : modules.Consistent) {file other next : Path}
    (h : modules.Edge file next) (hfile : modules.IsLocated file) (hother : modules.IsLocated other)
    (hsame : file.Same other) : modules.Edge other next := by
  obtain ⟨surface, source, hsurface, hmem, hpath, hlocate⟩ := h
  have hfound := hconsistent file other surface hfile hother hsame hsurface
  refine ⟨surface, source, hfound, hmem, hpath, ?_⟩
  rw [← hsame.dir.joinDir]
  exact hlocate

/-! ## Chains on which a walk does not turn back -/

theorem onChain_cons (entry : Path) (chain : List Path) (file : Path) :
    onChain (entry :: chain) file = (decide (entry.Same file) || onChain chain file) := rfl

/-- A chain of `export *` that meets no file of `chain`. -/
inductive ReachesPast (modules : Modules) (chain : List Path) : Path → Path → Prop
  | here {file : Path} (hoff : onChain chain file = false) : ReachesPast modules chain file file
  | step {file next last : Path} (hoff : onChain chain file = false)
      (hedge : modules.Edge file next) (hrest : ReachesPast modules chain next last) :
      ReachesPast modules chain file last

theorem ReachesPast.onChain_eq_false {chain : List Path} {file last : Path}
    (h : modules.ReachesPast chain file last) : onChain chain file = false := by
  cases h with
  | here hoff => exact hoff
  | step hoff _ _ => exact hoff

theorem Reaches.reachesPast {file last : Path} (h : modules.Reaches file last) :
    modules.ReachesPast [] file last := by
  induction h using Relation.ReflTransGen.head_induction_on with
  | refl => exact .here rfl
  | head hedge _ ih => exact .step rfl hedge ih

/-- A chain that meets `file` can be started anew at its last meeting: it then leads from `file`
past `file`. -/
theorem ReachesPast.restart (hconsistent : modules.Consistent) {chain : List Path}
    {first last file : Path} (h : modules.ReachesPast chain first last)
    (hfirst : modules.IsLocated first) (hfile : modules.IsLocated file) :
    modules.ReachesPast (file :: chain) first last ∨ file.Same last
      ∨ ∃ next, modules.Edge file next ∧ modules.ReachesPast (file :: chain) next last := by
  -- the chain is read from its end, so the first meeting found is the last one
  induction h with
  | @here first hoff =>
    by_cases hsame : file.Same first
    · exact Or.inr (Or.inl hsame)
    · exact Or.inl (.here (by rw [onChain_cons, hoff]; simpa using hsame))
  | @step first next last hoff hedge hrest ih =>
    rcases ih hedge.isLocated with hpast | hmet
    · by_cases hsame : file.Same first
      · exact Or.inr (Or.inr ⟨next, hedge.of_same hconsistent hfirst hfile hsame.symm, hpast⟩)
      · exact Or.inl (.step (by rw [onChain_cons, hoff]; simpa using hsame) hedge hpast)
    · exact Or.inr hmet

/-- From a file off the chain, what lies past the chain is the file itself or lies past both. -/
theorem ReachesPast.cases_file (hconsistent : modules.Consistent) {chain : List Path}
    {file last : Path} (h : modules.ReachesPast chain file last) (hfile : modules.IsLocated file) :
    file.Same last
      ∨ ∃ next, modules.Edge file next ∧ modules.ReachesPast (file :: chain) next last := by
  rcases h.restart hconsistent hfile hfile with hpast | hmet
  · have hoff := hpast.onChain_eq_false
    rw [onChain_cons] at hoff
    exact absurd hoff (by simp [Path.Same])
  · exact hmet

/-! ## Files that a walk goes through -/

/-- Among the events are those of all statements of a file. -/
structure Walked (modules : Modules) (events : List Event) (place : Place) (surface : Surface) :
    Prop where
  located : modules.IsLocated place.file
  surface_eq : modules.surface place.file = .ok surface
  imported_eq : place.imported = surface.imported
  baseDir_eq : place.baseDir = place.file.dir
  body : ∃ depth chain body,
    place.eventsOf (modules.descend depth chain) surface.declarations = .ok body ∧ body ⊆ events

theorem Walked.mono {events more : List Event} {place : Place} {surface : Surface}
    (h : modules.Walked events place surface) (hsub : events ⊆ more) :
    modules.Walked more place surface := by
  obtain ⟨depth, chain, body, hbody, hin⟩ := h.body
  exact ⟨h.located, h.surface_eq, h.imported_eq, h.baseDir_eq, depth, chain, body, hbody,
    List.Subset.trans hin hsub⟩

/-- A file off the chain is gone through. -/
theorem walked_of_log {depth : Nat} {chain : List Path} {path file : Path} {segment : String}
    {viaWildcard : Bool} {events : List Event} (hpath : path.clean = path)
    (h : modules.log (depth + 1) chain path segment viaWildcard = .ok (file, events))
    (hoff : onChain chain file = false) :
    ∃ surface,
      modules.Walked events (Place.enter path segment viaWildcard file surface) surface := by
  obtain ⟨hlocate, ⟨hon, -⟩ | ⟨-, surface, body, hsurface, hbody, rfl⟩⟩ := log_cases h
  · rw [hon] at hoff; cases hoff
  · exact ⟨surface, ⟨path, hpath, hlocate⟩, hsurface, rfl, rfl, _, _, body, hbody,
      List.subset_cons_self _ _⟩

/-- A file off the chain leads the walk along each of its edges. -/
theorem exists_log_of_edge {depth : Nat} {chain : List Path} {path file next : Path}
    {segment : String} {viaWildcard : Bool} {events : List Event}
    (h : modules.log (depth + 1) chain path segment viaWildcard = .ok (file, events))
    (hoff : onChain chain file = false) (hedge : modules.Edge file next) :
    ∃ target targetSegment found, target.clean = target
      ∧ modules.log depth (file :: chain) target targetSegment true = .ok (next, found)
      ∧ found ⊆ events := by
  obtain ⟨-, ⟨hon, -⟩ | ⟨-, surface, body, hsurface, hbody, rfl⟩⟩ := log_cases h
  · rw [hon] at hoff; cases hoff
  · obtain ⟨surface', source, hsurface', hmem, hispath, hnext⟩ := hedge
    rw [hsurface] at hsurface'
    cases hsurface'
    obtain ⟨found, hfound, hsub⟩ := Place.exists_events_of_mem hbody hmem
    change (if Specifier.isPath source then _ else _) = _ at hfound
    rw [if_pos hispath] at hfound
    obtain ⟨target, hlog⟩ := descend_eq_ok hfound
    have htarget : target = next := by
      cases depth with
      | zero => cases hlog
      | succ depth =>
        have hlocated := (log_cases hlog).1
        change modules.locate (file.dir.joinDir source) = _ at hlocated
        rw [hnext] at hlocated
        cases hlocated
        rfl
    rw [htarget] at hlog
    exact ⟨_, _, found, Path.clean_joinDir _ _, hlog,
      List.Subset.trans hsub (List.subset_cons_self _ _)⟩

/-- Every file past the chain is visited, and on no chain that holds it already. -/
theorem exists_log_of_reachesPast (hconsistent : modules.Consistent) {depth : Nat}
    {chain : List Path} {path file last : Path} {segment : String} {viaWildcard : Bool}
    {events : List Event} (hpath : path.clean = path)
    (h : modules.log depth chain path segment viaWildcard = .ok (file, events))
    (hreach : modules.ReachesPast chain file last) :
    ∃ less below way waySegment wayViaWildcard found part, way.clean = way
      ∧ modules.log (less + 1) below way waySegment wayViaWildcard = .ok (found, part)
      ∧ onChain below found = false ∧ found.Same last ∧ part ⊆ events := by
  induction depth generalizing chain path segment viaWildcard file events with
  | zero => cases h
  | succ depth ih =>
    have hoff := hreach.onChain_eq_false
    have hfile : modules.IsLocated file := ⟨path, hpath, (log_cases h).1⟩
    rcases hreach.cases_file hconsistent hfile with hsame | ⟨next, hedge, hpast⟩
    · exact ⟨depth, chain, path, segment, viaWildcard, file, events, hpath, h, hoff, hsame,
        List.Subset.refl _⟩
    · -- the chain goes on along an `export *` of the file, which the walk follows too
      obtain ⟨target, targetSegment, found, hclean, hlog, hsub⟩ := exists_log_of_edge h hoff hedge
      obtain ⟨less, below, way, waySegment, wayViaWildcard, last, part, hway, hvisit, hfresh, hsame,
        hpart⟩ := ih hclean hlog hpast
      exact ⟨less, below, way, waySegment, wayViaWildcard, last, part, hway, hvisit, hfresh, hsame,
        List.Subset.trans hpart hsub⟩

/-- Every file past the chain is gone through. -/
theorem exists_walked_of_reachesPast (hconsistent : modules.Consistent) {depth : Nat}
    {chain : List Path} {path file last : Path} {segment : String} {viaWildcard : Bool}
    {events : List Event} (hpath : path.clean = path)
    (h : modules.log depth chain path segment viaWildcard = .ok (file, events))
    (hreach : modules.ReachesPast chain file last) :
    ∃ place surface, modules.Walked events place surface ∧ place.file.Same last := by
  obtain ⟨less, below, way, waySegment, wayViaWildcard, found, part, hway, hvisit, hfresh, hsame,
    hpart⟩ := exists_log_of_reachesPast hconsistent hpath h hreach
  obtain ⟨surface, hwalked⟩ := walked_of_log hway hvisit hfresh
  exact ⟨_, surface, hwalked.mono hpart, hsame⟩

/-- The first event of a visit is that it is made. -/
theorem visit_mem_of_log {depth : Nat} {chain : List Path} {path file : Path} {segment : String}
    {viaWildcard : Bool} {events : List Event}
    (h : modules.log (depth + 1) chain path segment viaWildcard = .ok (file, events)) :
    .visit chain path segment viaWildcard ∈ events := by
  obtain ⟨-, ⟨-, rfl⟩ | ⟨-, surface, body, -, -, rfl⟩⟩ := log_cases h
  · exact List.mem_cons_self
  · exact List.mem_cons_self

/-- The events of each statement are there. -/
theorem Walked.exists_events {events : List Event} {place : Place} {surface : Surface}
    (h : modules.Walked events place surface) {declaration : Declaration}
    (hmem : declaration ∈ surface.declarations) :
    ∃ descend found, place.events descend declaration = .ok found ∧ found ⊆ events := by
  obtain ⟨depth, chain, body, hbody, hsub⟩ := h.body
  obtain ⟨found, hfound, hin⟩ := Place.exists_events_of_mem hbody hmem
  exact ⟨_, found, hfound, List.Subset.trans hin hsub⟩

/-- What a file offers is recorded when it is gone through. -/
theorem Walked.record_mem {events : List Event} {place : Place} {surface : Surface}
    (h : modules.Walked events place surface) {name : String} {origin : Origin}
    (hoffer : (name, origin) ∈ surface.offers) : .record place name origin ∈ events := by
  obtain ⟨declaration, hmem, hin⟩ := List.mem_flatMap.mp hoffer
  obtain ⟨descend, found, hfound, hsub⟩ := h.exists_events hmem
  rw [← h.imported_eq] at hin
  exact hsub (Place.record_mem_events hfound hin)

/-- Whatever the first file reaches is gone through; for the sake of a `default`, the first file
itself not by `export *`. -/
theorem exists_walked_of_reaches (hconsistent : modules.Consistent) {depth : Nat}
    {start root file : Path} {events : List Event} (hstart : start.clean = start)
    (h : modules.log (depth + 1) [] start "" false = .ok (root, events))
    (hreach : modules.Reaches root file) {surface : Surface}
    (hsurface : modules.surface file = .ok surface) {name : String}
    (hdefault : name = Walk.defaultName → file = root) :
    ∃ place, modules.Walked events place surface ∧ place.file.Same file
      ∧ (place.viaWildcard && name == Walk.defaultName) = false := by
  by_cases hname : name = Walk.defaultName
  · -- the first file is gone through before any `export *` can lead back to it
    obtain ⟨found, hwalked⟩ := walked_of_log hstart h rfl
    have hfound := hwalked.surface_eq
    rw [← hdefault hname] at hwalked hfound
    cases hsurface.symm.trans hfound
    exact ⟨_, hwalked, rfl, rfl⟩
  · obtain ⟨place, found, hwalked, hsame⟩ :=
      exists_walked_of_reachesPast hconsistent hstart h hreach.reachesPast
    have hroot : modules.IsLocated root := ⟨start, hstart, (log_cases h).1⟩
    have hfound := hconsistent place.file file found hwalked.located (hreach.isLocated hroot)
      hsame hwalked.surface_eq
    cases hsurface.symm.trans hfound
    exact ⟨place, hwalked, hsame, by simp [hname]⟩

/-! ## What is visited was reached -/

/-- The file of a visit is reached by `export *`, and the first one is reached by none. -/
theorem Visits.reaches {start root : Path} (hroot : modules.locate start = .ok root)
    {chain : List Path} {path : Path} {segment : String} {viaWildcard : Bool}
    (h : modules.Visits start chain path segment viaWildcard) {file : Path}
    (hlocate : modules.locate path = .ok file) :
    modules.Reaches root file ∧ (viaWildcard = false → file = root) := by
  induction h generalizing file with
  | first =>
    cases hroot.symm.trans hlocate
    exact ⟨.refl, fun _ => rfl⟩
  | next hvisit hprevious hoff hsurface hmem hpath ih =>
    have hedge : modules.Edge _ file := ⟨_, _, hsurface, hmem, hpath, hlocate⟩
    exact ⟨(ih hprevious).1.tail hedge, fun hvia => by cases hvia⟩

theorem Enters.reaches {start root : Path} (hroot : modules.locate start = .ok root) {place : Place}
    {surface : Surface} (h : modules.Enters start place surface) :
    modules.Reaches root place.file ∧ modules.surface place.file = .ok surface
      ∧ (place.viaWildcard = false → place.file = root) := by
  obtain ⟨chain, path, segment, viaWildcard, file, hvisit, hlocate, -, hsurface, rfl⟩ := h
  obtain ⟨hreach, hfirst⟩ := hvisit.reaches hroot hlocate
  exact ⟨hreach, hsurface, hfirst⟩

end Modules

/-! ## Barrels -/

namespace FileSystem

/-- Where directories list plain names, only one text leads to a file. -/
theorem IsRegular.consistent {fs : FileSystem} (hfs : fs.IsRegular) : fs.modules.Consistent := by
  rintro file other surface ⟨path, hpath, hfile⟩ ⟨way, hway, hother⟩ hsame hsurface
  have htidy : file.IsTidy := hfs.isTidy_of_locate hpath hfile
  have heq : file = other := htidy.eq_of_same (hfs.isTidy_of_locate hway hother) hsame
  rw [← heq]
  exact hsurface

/-- The dialect of a file can be told from its components. -/
theorem dialect_of_same {p q : Path} (h : p.Same q) :
    Source.Dialect.ofPath p = Source.Dialect.ofPath q := by
  simp only [Source.Dialect.ofPath, Path.fileStem?, Path.extension?, Path.fileName?,
    show p.components = q.components from h]

/-- A module is a file that can be read and whose text is one. -/
theorem surface_eq_ok_iff {fs : FileSystem} {file : Path} {surface : Surface} :
    fs.modules.surface file = .ok surface
      ↔ ∃ source, fs.read file = .ok source ∧ Surface.parse? file source = some surface := by
  simp only [modules, Surface.parse?_eq_some_iff]
  cases fs.read file with
  | error cause => simp
  | ok source =>
    dsimp only
    cases hparse : Surface.parse file source with
    | error faults => simp [hparse, Except.mapError]
    | ok found => simp [hparse, Except.mapError]

/-- A text is read alike at paths with the same components. -/
theorem parse_of_same {p q : Path} (h : p.Same q) (source : String) :
    Surface.parse p source = Surface.parse q source := by
  rw [Surface.parse, Surface.parse, dialect_of_same h]

theorem parse?_of_same {p q : Path} (h : p.Same q) (source : String) :
    Surface.parse? p source = Surface.parse? q source :=
  congrArg Except.toOption (parse_of_same h source)

/-- A file system that reads paths with the same components alike is consistent. -/
theorem consistent_of_read {fs : FileSystem} (h : ∀ p q text, p.Same q → fs.read p = .ok text →
    fs.read q = .ok text) : fs.modules.Consistent := by
  intro file other surface _ _ hsame hsurface
  obtain ⟨source, hread, hparse⟩ := surface_eq_ok_iff.mp hsurface
  rw [parse?_of_same hsame] at hparse
  exact surface_eq_ok_iff.mpr ⟨source, h file other source hsame hread, hparse⟩

theorem clean_of_absolute {fs : FileSystem} {path dir : Path} (h : fs.absolute path = .ok dir) :
    dir.clean = dir := by
  unfold absolute at h
  split at h
  · cases h; exact Path.clean_clean _
  · split at h
    · cases h; exact Path.clean_clean _
    · cases h

/-- What the log of the index file replays is the flattened barrel, or why there is none. -/
theorem flatten_eq_log {fs : FileSystem} {path directory : Path}
    (h : fs.absolute path = .ok directory) :
    fs.flatten path = (fs.modules.log (fs.depth + 1) [] directory "" false).map fun logged =>
      ⟨directory, logged.1, (Walk.empty.replay logged.2).exports,
        (Walk.empty.replay logged.2).diagnostics⟩ := by
  unfold flatten
  rw [h]
  show (fs.modules.visit (fs.depth + 1) [] directory "" false .empty >>= _) = _
  rw [Modules.visit_eq_log]
  cases fs.modules.log (fs.depth + 1) [] directory "" false <;> rfl

/-- A flattened barrel replays the log of its index file. -/
theorem log_of_flatten {fs : FileSystem} {path : Path} {barrel : Barrel}
    (h : fs.flatten path = .ok barrel) :
    fs.absolute path = .ok barrel.directory
      ∧ ∃ events, fs.modules.log (fs.depth + 1) [] barrel.directory "" false
            = .ok (barrel.rootFile, events)
          ∧ Walk.empty.replay events = ⟨barrel.exports, barrel.diagnostics⟩ := by
  cases hdir : fs.absolute path with
  | error error =>
    unfold flatten at h
    rw [hdir] at h
    cases h
  | ok dir =>
    rw [flatten_eq_log hdir] at h
    cases hlog : fs.modules.log (fs.depth + 1) [] dir "" false with
    | error error => rw [hlog] at h; cases h
    | ok logged =>
      rw [hlog] at h
      cases h
      exact ⟨rfl, logged.2, hlog, rfl⟩

/-- The names of a flattened barrel are those offered by the files that its index file reaches by
`export *`; a `default` counts only in the index file itself. -/
theorem mem_names_flatten_iff {fs : FileSystem} (hconsistent : fs.modules.Consistent) {path : Path}
    {barrel : Barrel} (h : fs.flatten path = .ok barrel) (name : String) :
    name ∈ barrel.exports.names
      ↔ ∃ file surface origin, fs.modules.Reaches barrel.rootFile file
          ∧ fs.modules.surface file = .ok surface ∧ (name, origin) ∈ surface.offers
          ∧ (name = Walk.defaultName → file = barrel.rootFile) := by
  obtain ⟨hdir, events, hlog, hreplay⟩ := log_of_flatten h
  have hroot := (Modules.log_cases hlog).1
  have hnames := Walk.mem_names_replay .empty events name
  rw [hreplay] at hnames
  rw [hnames]
  constructor
  · rintro (hnil | ⟨event, hevent, entry, hentry⟩)
    · cases hnil
    · obtain ⟨place, origin, rfl, hnot, -⟩ := Event.setting?_eq_some hentry
      obtain ⟨surface, henters, hoffer⟩ := Modules.explains_of_log .first hlog _ hevent
      obtain ⟨hreach, hsurface, hfirst⟩ := henters.reaches hroot
      refine ⟨place.file, surface, origin, hreach, hsurface, hoffer, fun hdefault => hfirst ?_⟩
      simpa [hdefault] using hnot
  · rintro ⟨file, surface, origin, hreach, hsurface, hoffer, hdefault⟩
    obtain ⟨place, hwalked, -, hnot⟩ := Modules.exists_walked_of_reaches hconsistent
      (clean_of_absolute hdir) hlog hreach hsurface hdefault
    exact Or.inr ⟨_, hwalked.record_mem hoffer, _, Event.setting?_record hnot origin⟩

end FileSystem

namespace Fixture

/-- Every fixture is consistent. -/
theorem consistent_view (fixture : Fixture) : fixture.view.modules.Consistent :=
  FileSystem.consistent_of_read fun _ _ _ hsame hread => read_of_same hsame hread

/-- Two files that export all of each other, and one that the second takes a name from. -/
def ring : Fixture :=
  (((Fixture.empty (some ⟨"/"⟩)).add
    ⟨"/b/index.ts"⟩ (.file "export * from './x'; export default 1;")).add
    ⟨"/b/x.ts"⟩ (.file "export * from '.'; export { Q as A } from './y'; export default 2;")).add
    ⟨"/b/y.ts"⟩ (.file "export const Q = 1;")

theorem isRegular_ring : ring.view.IsRegular :=
  isRegular_view (by decide +kernel) (by decide +kernel)

theorem flatten_ring : ring.view.flatten ⟨"/b"⟩
    = .ok ⟨⟨"/b"⟩, ⟨"/b/index.ts"⟩, [("A", ⟨"./y", some "Q"⟩), (Walk.defaultName, ⟨"", none⟩)],
        [⟨.cyclicReExport, ⟨"/b/index.ts"⟩, cycleText ⟨"/b/index.ts"⟩⟩]⟩ := by
  decide +kernel

end Fixture

theorem FileSystem.mem_names_flatten_ring :
    Fixture.ring.view.modules.Consistent
      ∧ ∃ barrel, Fixture.ring.view.flatten ⟨"/b"⟩ = .ok barrel
        ∧ ∃ file surface origin, Fixture.ring.view.modules.Reaches barrel.rootFile file
          ∧ Fixture.ring.view.modules.surface file = .ok surface ∧ ("A", origin) ∈ surface.offers
          ∧ ("A" = Walk.defaultName → file = barrel.rootFile) := by
  have hconsistent := Fixture.ring.consistent_view
  refine ⟨hconsistent, _, Fixture.flatten_ring, ?_⟩
  exact (FileSystem.mem_names_flatten_iff hconsistent Fixture.flatten_ring "A").mp (by decide)

end DirectImports
