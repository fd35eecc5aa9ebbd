import DirectImports.Proofs.Flatten.Segments

/-!
# What exported names denote

An exported name stands for a binding: something declared in a file, or something of a package.
`Modules.Denotes` says which, by the rules of the language: a module's own exports are its bindings,
`export { x as n } from` passes on what `x` denotes elsewhere, and `export *` passes on every name
but `default`.

Flattening keeps the bindings: what a name denotes in the index file of a barrel is what the name
of its record denotes in the module of its record (`denotes_iff_of_flatten`). One direction follows
the derivation down the chain of `export *`; the other climbs the chain that led to the record, and
where a file on it exports the name itself, that export has the same record.
-/

namespace DirectImports

/-! ## Bindings -/

/-- What an exported name stands for in the end. -/
inductive Binding
  | inFile (file : Path) (binding : String)
  | inPackage (package name : String)
deriving DecidableEq, Repr

/-- What a specifier may lead to. -/
inductive ModuleRef
  | file (file : Path)
  | package (name : String)
deriving DecidableEq, Repr

/-- Which names an `export *` does not pass on beside `default`. Rules differ about names that the
module exports one by one; all other names are passed on. -/
structure StarRule where
  hides : Surface → String → Prop
  mem_names : ∀ {surface name}, hides surface name → name ∈ surface.names

namespace StarRule

/-- Everything is passed on. -/
def all : StarRule where
  hides := fun _ _ => False
  mem_names := False.elim

/-- What a module exports one by one goes before what it passes on. -/
def explicitFirst : StarRule where
  hides := fun surface name => name ∈ surface.names
  mem_names := id

end StarRule

/-- The specifier of the module that a statement names. -/
def Declaration.source? : Declaration → Option String
  | .wildcard source => some source
  | .star source _ => some source
  | .named source _ => source
  | _ => none

namespace Modules

/-- The module that a specifier leads to when it is written in a directory. -/
def refer? (modules : Modules) (dir : Path) (source : String) : Option ModuleRef :=
  if Specifier.isPath source then (modules.locate (dir.joinDir source)).toOption.map .file
  else some (.package source)

theorem refer?_of_locate {modules : Modules} {dir file : Path} {source : String}
    (hispath : Specifier.isPath source = true)
    (hlocate : modules.locate (dir.joinDir source) = .ok file) :
    modules.refer? dir source = some (.file file) := by
  rw [refer?, if_pos hispath, hlocate]
  rfl

/-- The module that a segment leads to; the empty one is the directory's own. -/
def designated? (modules : Modules) (directory : Path) (segment : String) : Option ModuleRef :=
  if segment ≠ "" ∧ Specifier.isPath segment = false then some (.package segment)
  else (modules.locate (directory.joinDir segment)).toOption.map .file

/-- An import of a name from a module gives a binding. -/
inductive Denotes (modules : Modules) (rule : StarRule) : ModuleRef → String → Binding → Prop
  | package (package name : String) :
      Denotes modules rule (.package package) name (.inPackage package name)
  | own {file : Path} {surface : Surface} {name binding : String}
      (hsurface : modules.surface file = .ok surface)
      (hmem : (name, .own binding) ∈ surface.explicit) :
      Denotes modules rule (.file file) name (.inFile file binding)
  | forward {file : Path} {surface : Surface} {name source inner : String}
      {target : ModuleRef} {binding : Binding} (hsurface : modules.surface file = .ok surface)
      (hmem : (name, .forward source inner) ∈ surface.explicit)
      (htarget : modules.refer? file.dir source = some target)
      (hdenotes : Denotes modules rule target inner binding) :
      Denotes modules rule (.file file) name binding
  | star {file : Path} {surface : Surface} {name source : String} {target : ModuleRef}
      {binding : Binding} (hsurface : modules.surface file = .ok surface)
      (hmem : .wildcard source ∈ surface.declarations) (hdefault : name ≠ Walk.defaultName)
      (hhides : ¬rule.hides surface name) (htarget : modules.refer? file.dir source = some target)
      (hdenotes : Denotes modules rule target name binding) :
      Denotes modules rule (.file file) name binding

/-- No file that another one reaches names a module by the empty text. -/
def HasNoEmptySource (modules : Modules) (root : Path) : Prop :=
  ∀ file surface, modules.Reaches root file → modules.surface file = .ok surface →
    ∀ declaration ∈ surface.declarations, declaration.source? ≠ some ""

/-- The module that an export of a file comes from. -/
def target? (modules : Modules) (file : Path) : Origin → Option ModuleRef
  | .own _ => some (.file file)
  | .forward source _ => modules.refer? file.dir source

end Modules

/-- The name of an export in the module it comes from. -/
def Origin.importName (name : String) : Origin → String
  | .own _ => name
  | .forward _ inner => inner

/-! ## Records -/

namespace Place

theorem importName_entryOf (place : Place) (name : String) (origin : Origin) :
    (place.entryOf name origin).importName name = origin.importName name := by
  cases origin with
  | own binding => rfl
  | forward source inner =>
    by_cases heq : inner = name
    · simp [entryOf, ExportRecord.importName, Origin.importName, heq]
    · simp [entryOf, ExportRecord.importName, Origin.importName, heq]

end Place

theorem Declaration.source?_of_mem_explicit {declaration : Declaration} {name source inner : String}
    (h : (name, .forward source inner) ∈ declaration.explicit) :
    declaration.source? = some source := by
  cases declaration with
  | wildcard => cases h
  | star => cases h
  | named from? specifiers =>
    cases from? with
    | none => obtain ⟨_, _, heq⟩ := List.mem_map.mp h; cases heq
    | some found => obtain ⟨_, _, heq⟩ := List.mem_map.mp h; cases heq; rfl
  | declared names nameless => obtain ⟨_, _, heq⟩ := List.mem_map.mp h; cases heq
  | default => cases List.mem_singleton.mp h
  | other => cases h

/-- A record leads to the module that its export comes from. -/
theorem Modules.designated?_entryOf {fs : FileSystem} (hfs : fs.IsRegular)
    (hroot : fs.HasRootDirectory) {directory : Path} (hdir : directory.IsNormal) {place : Place}
    {name : String} {origin : Origin}
    (h : fs.modules.Explains directory (.record place name origin))
    (hsource : ∀ inner, origin ≠ .forward "" inner) :
    fs.modules.designated? directory (place.entryOf name origin).segment
      = fs.modules.target? place.file origin := by
  have hanchored := Event.isAnchored_of_explains hfs hroot hdir h
  -- a segment that the walk composed never looks like the name of a package
  have hfile {segment : String} (hsegment : segment = "" ∨ Specifier.isPath segment = true) :
      fs.modules.designated? directory segment
        = (fs.modules.locate (directory.joinDir segment)).toOption.map .file := by
    refine if_neg fun hpackage => ?_
    rcases hsegment with hempty | hpath
    · exact hpackage.1 hempty
    · rw [hpackage.2] at hpath
      cases hpath
  cases origin with
  | own binding =>
    obtain ⟨surface, ⟨chain, path, segment, viaWildcard, file, hvisit, -, -, -, rfl⟩, -⟩ := h
    have hlocate : fs.modules.locate (directory.joinDir segment) = .ok file := hanchored
    show fs.modules.designated? directory segment = some (.file file)
    rw [hfile hvisit.segment, hlocate]
    rfl
  | forward source inner =>
    show fs.modules.designated? directory (place.segmentOf source)
      = fs.modules.refer? place.file.dir source
    by_cases hispath : Specifier.isPath source = true
    · have hsame : directory.joinDir (place.segmentOf source) = place.file.dir.joinDir source :=
        hanchored hispath
      have hsegment : place.segmentOf source = Specifier.join place.baseSegment source :=
        if_pos hispath
      rw [Modules.refer?, if_pos hispath, hfile, hsame]
      rw [hsegment]
      exact Specifier.join_eq_empty_or_isPath _ _
    · have hnot : Specifier.isPath source = false := by simpa using hispath
      have hne : source ≠ "" := fun hempty => hsource inner (by rw [hempty])
      rw [Modules.refer?, if_neg hispath, Place.segmentOf, if_neg hispath, Modules.designated?,
        if_pos ⟨hne, hnot⟩]

/-! ## Walks that find nothing but cycles -/

/-- A walk through a barrel that finds nothing but cycles, in files that name their modules. -/
structure PlainWalk (fs : FileSystem) (barrel : Barrel) (events : List Event) : Prop where
  regular : fs.IsRegular
  rootDirectory : fs.HasRootDirectory
  isNormal : barrel.directory.IsNormal
  log_eq : fs.modules.log (fs.depth + 1) [] barrel.directory "" false
    = .ok (barrel.rootFile, events)
  replay_eq : Walk.empty.replay events = ⟨barrel.exports, barrel.diagnostics⟩
  cyclic : ∀ diagnostic ∈ barrel.diagnostics, diagnostic.kind = .cyclicReExport
  source_ne : fs.modules.HasNoEmptySource barrel.rootFile

namespace PlainWalk

variable {fs : FileSystem} {barrel : Barrel} {events : List Event}

/-- No statement leads to a finding other than a cycle. -/
theorem not_report (h : PlainWalk fs barrel events) {found : List Event} (hsub : found ⊆ events)
    {file : Path} :
    ¬∃ kind message, .report kind file message ∈ found ∧ kind ≠ .cyclicReExport := by
  rintro ⟨kind, message, hmem, hne⟩
  have hfound := Walk.mem_diagnostics_replay (hsub hmem) .empty
  rw [h.replay_eq] at hfound
  exact hne (h.cyclic _ hfound)

/-- Every record of a name is the one that it has in the end. -/
theorem get?_eq (h : PlainWalk fs barrel events) {event : Event} (hevent : event ∈ events)
    {name : String} {entry : ExportRecord} (hentry : event.setting? = some (name, entry)) :
    barrel.exports.get? name = some entry := by
  have hshadowed : (Walk.empty.replay events).NotShadowed := by
    rw [h.replay_eq]
    intro diagnostic hmem hkind
    rw [h.cyclic diagnostic hmem] at hkind
    cases hkind
  have hget := Walk.get?_replay_of_not_shadowed hshadowed hevent hentry
  rw [h.replay_eq] at hget
  exact hget

theorem get?_of_mem (h : PlainWalk fs barrel events) {name : String} {record : ExportRecord}
    (hmem : (name, record) ∈ barrel.exports) : barrel.exports.get? name = some record := by
  refine ExportMap.get?_of_mem ?_ hmem
  have hempty : Walk.empty.exports.names.Nodup := List.nodup_nil
  have hnodup := Walk.nodup_names_replay hempty events
  rw [h.replay_eq] at hnodup
  exact hnodup

theorem isTidy_of_isLocated (h : PlainWalk fs barrel events) {file : Path}
    (hfile : fs.modules.IsLocated file) : file.IsTidy := by
  obtain ⟨path, hpath, hlocate⟩ := hfile
  exact h.regular.isTidy_of_locate hpath hlocate

/-- Every file that the index file reaches is gone through. -/
theorem exists_walked (h : PlainWalk fs barrel events) {file : Path} {surface : Surface}
    (hreach : fs.modules.Reaches barrel.rootFile file)
    (hsurface : fs.modules.surface file = .ok surface) {name : String}
    (hdefault : name = Walk.defaultName → file = barrel.rootFile) :
    ∃ place, fs.modules.Walked events place surface ∧ place.file = file
      ∧ (place.viaWildcard && name == Walk.defaultName) = false := by
  obtain ⟨place, hwalked, hsame, hnot⟩ := Modules.exists_walked_of_reaches h.regular.consistent
    h.isNormal.2 h.log_eq hreach hsurface hdefault
  have hroot : fs.modules.IsLocated barrel.rootFile :=
    ⟨_, h.isNormal.2, (Modules.log_cases h.log_eq).1⟩
  refine ⟨place, hwalked, ?_, hnot⟩
  exact (h.isTidy_of_isLocated hwalked.located).eq_of_same
    (h.isTidy_of_isLocated (hreach.isLocated hroot)) hsame

/-- If a reached file exports a name one by one, the record of the name leads to the module that
the export comes from. -/
theorem record_of_mem_explicit (h : PlainWalk fs barrel events) {file : Path} {surface : Surface}
    (hreach : fs.modules.Reaches barrel.rootFile file)
    (hsurface : fs.modules.surface file = .ok surface) {name : String}
    (hdefault : name = Walk.defaultName → file = barrel.rootFile) {origin : Origin}
    (hmem : (name, origin) ∈ surface.explicit) {record : ExportRecord}
    (hget : barrel.exports.get? name = some record) :
    fs.modules.designated? barrel.directory record.segment = fs.modules.target? file origin
      ∧ record.importName name = origin.importName name := by
  obtain ⟨place, hwalked, rfl, hnot⟩ := h.exists_walked hreach hsurface hdefault
  obtain ⟨declaration, hdeclaration, hexplicit⟩ := List.mem_flatMap.mp hmem
  obtain ⟨descend, found, hfound, hsub⟩ := hwalked.exists_events hdeclaration
  have hoffer : (name, origin) ∈ declaration.offers place.imported :=
    (Place.mem_offers_or_report hfound hexplicit).resolve_right (h.not_report hsub)
  have hevent : .record place name origin ∈ events := hsub (Place.record_mem_events hfound hoffer)
  have hrecord : record = place.entryOf name origin :=
    Option.some.inj (hget.symm.trans (h.get?_eq hevent (Event.setting?_record hnot origin)))
  have hsource : ∀ inner, origin ≠ .forward "" inner := by
    rintro inner rfl
    exact h.source_ne _ _ hreach hsurface declaration hdeclaration
      (Declaration.source?_of_mem_explicit hexplicit)
  rw [hrecord]
  refine ⟨?_, place.importName_entryOf name origin⟩
  exact Modules.designated?_entryOf h.regular h.rootDirectory h.isNormal
    (Modules.explains_of_log .first h.log_eq _ hevent) hsource

/-! ## Down the chain -/

/-- Whatever a name denotes in a reached file, it denotes it by its record. -/
theorem exists_target_of_denotes (h : PlainWalk fs barrel events) {rule : StarRule} {name : String}
    {record : ExportRecord} (hget : barrel.exports.get? name = some record) {binding : Binding}
    {source : ModuleRef} {key : String} (hdenotes : fs.modules.Denotes rule source key binding)
    (hkey : key = name) {file : Path} (hsource : source = .file file)
    (hreach : fs.modules.Reaches barrel.rootFile file)
    (hdefault : name = Walk.defaultName → file = barrel.rootFile) :
    ∃ target, fs.modules.designated? barrel.directory record.segment = some target
      ∧ fs.modules.Denotes rule target (record.importName name) binding := by
  -- an export of the file itself is the record; only an `export *` leads on, to a reached file
  induction hdenotes generalizing file with
  | package => cases hsource
  | own hsurface hmem =>
    cases hsource
    subst hkey
    obtain ⟨htarget, hname⟩ := h.record_of_mem_explicit hreach hsurface hdefault hmem hget
    refine ⟨_, htarget, ?_⟩
    rw [hname]
    exact .own hsurface hmem
  | forward hsurface hmem hrefer hinner =>
    cases hsource
    subst hkey
    obtain ⟨htarget, hname⟩ := h.record_of_mem_explicit hreach hsurface hdefault hmem hget
    refine ⟨_, htarget.trans hrefer, ?_⟩
    rw [hname]
    exact hinner
  | @star file surface key source target binding hsurface hmem hne hhides hrefer hinner ih =>
    cases hsource
    subst hkey
    obtain ⟨place, hwalked, rfl, -⟩ := h.exists_walked hreach hsurface hdefault
    obtain ⟨descend, found, hfound, hsub⟩ := hwalked.exists_events hmem
    have hispath : Specifier.isPath source = true :=
      (Place.isPath_or_report hfound).resolve_right (h.not_report hsub)
    rw [Modules.refer?, if_pos hispath] at hrefer
    cases hlocate : fs.modules.locate (place.file.dir.joinDir source) with
    | error error => rw [hlocate] at hrefer; cases hrefer
    | ok next =>
      rw [hlocate] at hrefer
      cases hrefer
      have hedge : fs.modules.Edge place.file next :=
        ⟨surface, source, hsurface, hmem, hispath, hlocate⟩
      exact ih rfl rfl (hreach.tail hedge) (fun hdefault => absurd hdefault hne)

/-! ## Up the chain -/

/-- If a reached file exports a name one by one, the name denotes there what it denotes by its
record. -/
theorem denotes_of_mem_explicit (h : PlainWalk fs barrel events) {rule : StarRule} {file : Path}
    {surface : Surface} (hreach : fs.modules.Reaches barrel.rootFile file)
    (hsurface : fs.modules.surface file = .ok surface) {name : String}
    (hdefault : name = Walk.defaultName → file = barrel.rootFile) {origin : Origin}
    (hmem : (name, origin) ∈ surface.explicit) {record : ExportRecord}
    (hget : barrel.exports.get? name = some record) {target : ModuleRef} {binding : Binding}
    (htarget : fs.modules.designated? barrel.directory record.segment = some target)
    (hdenotes : fs.modules.Denotes rule target (record.importName name) binding) :
    fs.modules.Denotes rule (.file file) name binding := by
  obtain ⟨hdesignated, hname⟩ := h.record_of_mem_explicit hreach hsurface hdefault hmem hget
  rw [hdesignated] at htarget
  rw [hname] at hdenotes
  cases origin with
  | own =>
    cases htarget
    exact hdenotes
  | forward => exact .forward hsurface hmem htarget hdenotes

/-- In a reached file, a name that an `export *` may not pass on has an export of its own. -/
theorem exists_mem_explicit (h : PlainWalk fs barrel events) {file : Path} {surface : Surface}
    (hreach : fs.modules.Reaches barrel.rootFile file)
    (hsurface : fs.modules.surface file = .ok surface) {name : String}
    (hdefault : name = Walk.defaultName → file = barrel.rootFile) (hname : name ∈ surface.names) :
    ∃ origin, (name, origin) ∈ surface.explicit := by
  obtain ⟨place, hwalked, rfl, -⟩ := h.exists_walked hreach hsurface hdefault
  obtain ⟨declaration, hdeclaration, hin⟩ := List.mem_flatMap.mp hname
  obtain ⟨descend, found, hfound, hsub⟩ := hwalked.exists_events hdeclaration
  obtain ⟨origin, hmem⟩ :=
    (Place.exists_mem_offers_or_report hfound hin).resolve_right (h.not_report hsub)
  exact ⟨origin, List.mem_flatMap.mpr
    ⟨declaration, hdeclaration, declaration.offers_subset_explicit _ hmem⟩⟩

/-- What a name denotes by its record and in a reached file, it denotes in the index file. -/
theorem denotes_rootFile (h : PlainWalk fs barrel events) {rule : StarRule} {name : String}
    (hne : name ≠ Walk.defaultName) {record : ExportRecord}
    (hget : barrel.exports.get? name = some record) {target : ModuleRef} {binding : Binding}
    (htarget : fs.modules.designated? barrel.directory record.segment = some target)
    (hdenotes : fs.modules.Denotes rule target (record.importName name) binding) {last : Path}
    (hreach : fs.modules.Reaches barrel.rootFile last)
    (hlast : fs.modules.Denotes rule (.file last) name binding) :
    fs.modules.Denotes rule (.file barrel.rootFile) name binding := by
  have hdefault {file : Path} : name = Walk.defaultName → file = barrel.rootFile :=
    fun heq => absurd heq hne
  induction hreach with
  | refl => exact hlast
  | @tail file next hreach hedge ih =>
    obtain ⟨surface, source, hsurface, hmem, hispath, hlocate⟩ := hedge
    refine ih ?_
    by_cases hhides : rule.hides surface name
    · -- then the file exports the name one by one, and with the same record
      obtain ⟨origin, hexplicit⟩ :=
        h.exists_mem_explicit hreach hsurface hdefault (rule.mem_names hhides)
      exact h.denotes_of_mem_explicit hreach hsurface hdefault hexplicit hget htarget hdenotes
    · exact .star hsurface hmem hne hhides (Modules.refer?_of_locate hispath hlocate) hlast

end PlainWalk

/-! ## Barrels -/

/-- Flattening keeps the bindings: if it finds nothing but cycles, a name denotes in the index file
what the name of its record denotes in the module of its record. -/
theorem FileSystem.denotes_iff_of_flatten (rule : StarRule) {fs : FileSystem} (hfs : fs.IsRegular)
    (hroot : fs.HasRootDirectory) {path : Path} {barrel : Barrel}
    (h : fs.flatten path = .ok barrel)
    (hcyclic : ∀ diagnostic ∈ barrel.diagnostics, diagnostic.kind = .cyclicReExport)
    (hsource : fs.modules.HasNoEmptySource barrel.rootFile)
    {name : String} {record : ExportRecord} (hmem : (name, record) ∈ barrel.exports)
    (binding : Binding) :
    fs.modules.Denotes rule (.file barrel.rootFile) name binding
      ↔ ∃ target, fs.modules.designated? barrel.directory record.segment = some target
          ∧ fs.modules.Denotes rule target (record.importName name) binding := by
  obtain ⟨hdirectory, events, hlog, hreplay⟩ := log_of_flatten h
  have hnormal := isNormal_of_absolute hfs.isAbsolute_cwd hdirectory
  have hwalk : PlainWalk fs barrel events :=
    ⟨hfs, hroot, hnormal, hlog, hreplay, hcyclic, hsource⟩
  have hget := hwalk.get?_of_mem hmem
  constructor
  · intro hdenotes
    exact hwalk.exists_target_of_denotes hget hdenotes rfl rfl .refl (fun _ => rfl)
  · rintro ⟨target, htarget, hdenotes⟩
    have hname : name ∈ (Walk.empty.replay events).exports.names := by
      rw [hreplay]
      exact List.mem_map_of_mem (f := (·.1)) hmem
    rcases (Walk.mem_names_replay .empty events name).mp hname with
      hnil | ⟨event, hevent, entry, hentry⟩
    · cases hnil
    · obtain ⟨place, origin, rfl, hnot, -⟩ := Event.setting?_eq_some hentry
      obtain ⟨surface, henters, hoffer⟩ := Modules.explains_of_log .first hlog _ hevent
      obtain ⟨hreach, hsurface, hfirst⟩ := henters.reaches (Modules.log_cases hlog).1
      have hdefault : name = Walk.defaultName → place.file = barrel.rootFile :=
        fun heq => hfirst (by simpa [heq] using hnot)
      have hlast := hwalk.denotes_of_mem_explicit hreach hsurface hdefault
        (surface.offers_subset_explicit hoffer) hget htarget hdenotes
      by_cases hne : name = Walk.defaultName
      · rw [← hdefault hne]
        exact hlast
      · exact hwalk.denotes_rootFile hne hget htarget hdenotes hreach hlast

/-! ## Two small barrels -/

namespace Modules

variable {modules : Modules}

/-- No `export *` leads out of a list of files, and they name no module by the empty text. -/
def isClosed (modules : Modules) (files : List Path) : Bool :=
  files.all fun file => (modules.surface file).toOption.all fun surface =>
    surface.declarations.all fun declaration =>
      declaration.source? != some "" &&
      match declaration with
      | .wildcard source => (modules.refer? file.dir source).all fun target =>
        match target with
        | .file next => files.contains next
        | .package _ => true
      | _ => true

theorem mem_of_isClosed {files : List Path} (hclosed : modules.isClosed files = true)
    {file last : Path} (hfile : file ∈ files) (h : modules.Reaches file last) : last ∈ files := by
  induction h with
  | refl => exact hfile
  | @tail mid next _ hedge ih =>
    obtain ⟨surface, source, hsurface, hmem, hispath, hlocate⟩ := hedge
    have hmid := List.all_eq_true.mp hclosed mid ih
    rw [hsurface] at hmid
    have hnext := List.all_eq_true.mp hmid _ hmem
    simp only [refer?_of_locate hispath hlocate, Option.all_some, Bool.and_eq_true] at hnext
    simpa using hnext.2

theorem hasNoEmptySource_of_isClosed {files : List Path} (hclosed : modules.isClosed files = true)
    {root : Path} (hroot : root ∈ files) : modules.HasNoEmptySource root := by
  intro file surface hreach hsurface declaration hmem
  have hfile := List.all_eq_true.mp hclosed file (mem_of_isClosed hclosed hroot hreach)
  rw [hsurface] at hfile
  simpa using (Bool.and_eq_true_iff.mp (List.all_eq_true.mp hfile _ hmem)).1

/-- A name denotes nothing in a file that neither exports it nor passes anything on. -/
theorem not_denotes_of_not_mem {rule : StarRule} {file : Path} {surface : Surface} {name : String}
    {binding : Binding} (hsurface : modules.surface file = .ok surface)
    (hexplicit : ∀ origin, (name, origin) ∉ surface.explicit)
    (hstar : ∀ source, .wildcard source ∉ surface.declarations) :
    ¬modules.Denotes rule (.file file) name binding := by
  intro h
  cases h with
  | own hfound hmem =>
    cases hsurface.symm.trans hfound
    exact hexplicit _ hmem
  | forward hfound hmem =>
    cases hsurface.symm.trans hfound
    exact hexplicit _ hmem
  | star hfound hmem =>
    cases hsurface.symm.trans hfound
    exact hstar _ hmem

end Modules

theorem FileSystem.denotes_ring :
    Fixture.ring.view.IsRegular ∧ Fixture.ring.view.HasRootDirectory
      ∧ ∃ barrel, Fixture.ring.view.flatten ⟨"/b"⟩ = .ok barrel
        ∧ (∀ diagnostic ∈ barrel.diagnostics, diagnostic.kind = .cyclicReExport)
        ∧ Fixture.ring.view.modules.HasNoEmptySource barrel.rootFile
        ∧ ("A", ⟨"./y", some "Q"⟩) ∈ barrel.exports
        ∧ Fixture.ring.view.modules.Denotes .explicitFirst (.file barrel.rootFile) "A"
          (.inFile ⟨"/b/y.ts"⟩ "Q") := by
  have hmetadata : Fixture.ring.view.metadata ⟨"/"⟩ = .ok ⟨true, false⟩ := by decide +kernel
  have hroot : Fixture.ring.view.HasRootDirectory := hasRootDirectory_of_metadata hmetadata rfl
  have hclosed : Fixture.ring.view.modules.isClosed [⟨"/b/index.ts"⟩, ⟨"/b/x.ts"⟩] = true := by
    decide +kernel
  have hsource : Fixture.ring.view.modules.HasNoEmptySource ⟨"/b/index.ts"⟩ :=
    Modules.hasNoEmptySource_of_isClosed hclosed (by decide)
  have hsurface : Fixture.ring.view.modules.surface ⟨"/b/y.ts"⟩
      = .ok ⟨[.declared ["Q"] []], []⟩ := by decide +kernel
  have htarget : Fixture.ring.view.modules.designated? ⟨"/b"⟩ "./y" = some (.file ⟨"/b/y.ts"⟩) := by
    decide +kernel
  refine ⟨Fixture.isRegular_ring, hroot, _, Fixture.flatten_ring, by decide, hsource,
    List.mem_cons_self, ?_⟩
  refine (FileSystem.denotes_iff_of_flatten .explicitFirst Fixture.isRegular_ring hroot
    Fixture.flatten_ring (by decide) hsource List.mem_cons_self _).mpr ?_
  exact ⟨_, htarget, .own hsurface (by decide)⟩

/-- Past a file at the root names are taken from the working directory, and the records lead to the
root. -/
theorem FileSystem.not_denotes_rootFile :
    Fixture.rootFile.view.IsRegular
      ∧ ∃ barrel, Fixture.rootFile.view.flatten ⟨"/b"⟩ = .ok barrel ∧ barrel.diagnostics = []
        ∧ Fixture.rootFile.view.modules.HasNoEmptySource barrel.rootFile
        ∧ ("B", ⟨"/x.ts", none⟩) ∈ barrel.exports
        ∧ Fixture.rootFile.view.modules.Denotes .explicitFirst (.file barrel.rootFile) "B"
          (.inFile ⟨"x.ts"⟩ "B")
        ∧ ¬∃ target,
            Fixture.rootFile.view.modules.designated? barrel.directory "/x.ts" = some target
            ∧ Fixture.rootFile.view.modules.Denotes .explicitFirst target "B"
              (.inFile ⟨"x.ts"⟩ "B") := by
  have hclosed : Fixture.rootFile.view.modules.isClosed [⟨"/b/index.ts"⟩, ⟨"/"⟩, ⟨"x.ts"⟩]
      = true := by decide +kernel
  have hsource : Fixture.rootFile.view.modules.HasNoEmptySource ⟨"/b/index.ts"⟩ :=
    Modules.hasNoEmptySource_of_isClosed hclosed (by decide)
  have hindex : Fixture.rootFile.view.modules.surface ⟨"/b/index.ts"⟩
      = .ok ⟨[.wildcard "/"], []⟩ := by decide +kernel
  have hroot : Fixture.rootFile.view.modules.surface ⟨"/"⟩ = .ok ⟨[.wildcard "./x.ts"], []⟩ := by
    decide +kernel
  have hup : Fixture.rootFile.view.modules.refer? (Path.dir ⟨"/b/index.ts"⟩) "/"
      = some (.file ⟨"/"⟩) := by decide +kernel
  have hrefer : Fixture.rootFile.view.modules.refer? (Path.dir ⟨"/"⟩) "./x.ts"
      = some (.file ⟨"x.ts"⟩) := by decide +kernel
  have hnear : Fixture.rootFile.view.modules.surface ⟨"x.ts"⟩ = .ok ⟨[.declared ["B"] []], []⟩ := by
    decide +kernel
  have htarget : Fixture.rootFile.view.modules.designated? ⟨"/b"⟩ "/x.ts"
      = some (.file ⟨"/x.ts"⟩) := by decide +kernel
  have hfar : Fixture.rootFile.view.modules.surface ⟨"/x.ts"⟩ = .ok ⟨[.declared ["A"] []], []⟩ := by
    decide +kernel
  have hhides (source : String) : ¬StarRule.explicitFirst.hides ⟨[.wildcard source], []⟩ "B" :=
    List.not_mem_nil
  refine ⟨Fixture.isRegular_rootFile, _, Fixture.flatten_rootFile, rfl, hsource,
    List.mem_cons_self, ?_, ?_⟩
  · refine .star hindex List.mem_cons_self (by decide) (hhides "/") hup ?_
    exact .star hroot List.mem_cons_self (by decide) (hhides "./x.ts") hrefer
      (.own hnear (by decide))
  · rintro ⟨target, hdesignated, hdenotes⟩
    cases htarget.symm.trans hdesignated
    refine Modules.not_denotes_of_not_mem hfar ?_ ?_ hdenotes
    · intro origin hmem
      have hname : "B" = "A" := congrArg Prod.fst (List.mem_singleton.mp hmem)
      exact absurd hname (by decide)
    · intro source hmem
      cases List.mem_singleton.mp hmem

end DirectImports
