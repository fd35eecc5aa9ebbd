import DirectImports.Proofs.Flatten.Reach
import Mathlib.Data.List.Nodup

/-!
# The order of statements

The files of two file systems may hold the same statements in different orders
(`FileSystem.Rearranges`). Whether a walk turns back depends on the chain that led it to a file and
on nothing that it met elsewhere, so both walks make the same visits: the log of one is the log of
the other in another order (`log_perm`).

What a log replays to does depend on its order, but only through names that are set more than once.
As long as no finding says that a record was replaced, all events that set a name set it alike
(`agree_of_notShadowed`), and then neither the map nor the findings, taken without their order,
depend on the order of the events (`replay_perm`). So the finding is a complete test: without it,
the order of statements does not matter (`flatten_of_rearranges`).
-/

namespace DirectImports

/-! ## The same statements in another order -/

/-- Two surfaces have the same statements in some order and import the same names. -/
structure Surface.Rearranges (surface other : Surface) : Prop where
  declarations_perm : surface.declarations.Perm other.declarations
  imported_eq : surface.imported = other.imported

/-- Two views of modules differ at most in the order of the statements. -/
structure Modules.Rearranges (modules other : Modules) : Prop where
  locate_eq : modules.locate = other.locate
  surface : ∀ file surface, modules.surface file = .ok surface →
    ∃ found, other.surface file = .ok found ∧ surface.Rearranges found

/-- Two file systems differ at most in the texts of files, and there at most in the order of the
statements. -/
structure FileSystem.Rearranges (fs other : FileSystem) : Prop where
  metadata_eq : fs.metadata = other.metadata
  list_eq : fs.list = other.list
  cwd_eq : fs.cwd = other.cwd
  depth_eq : fs.depth = other.depth
  surface : ∀ file surface, fs.modules.surface file = .ok surface →
    ∃ found, other.modules.surface file = .ok found ∧ surface.Rearranges found

namespace Place

variable {place : Place} {descend other : Path → String → Except BarrelError (List Event)}

/-- Statements in another order have the same events in another order. -/
theorem eventsOf_perm {declarations rearranged : List Declaration}
    (h : declarations.Perm rearranged) {body : List Event}
    (hbody : place.eventsOf descend declarations = .ok body) :
    ∃ found, place.eventsOf descend rearranged = .ok found ∧ body.Perm found := by
  induction h generalizing body with
  | nil => exact ⟨body, hbody, .refl _⟩
  | cons declaration _ ih =>
    obtain ⟨first, rest, hfirst, hrest, rfl⟩ := eventsOf_cons_eq_ok hbody
    obtain ⟨found, hfound, hperm⟩ := ih hrest
    exact ⟨first ++ found, eventsOf_cons_of_ok hfirst hfound, hperm.append_left first⟩
  | swap declaration next rest =>
    obtain ⟨first, others, hfirst, hothers, rfl⟩ := eventsOf_cons_eq_ok hbody
    obtain ⟨second, last, hsecond, hlast, rfl⟩ := eventsOf_cons_eq_ok hothers
    refine ⟨second ++ (first ++ last),
      eventsOf_cons_of_ok hsecond (eventsOf_cons_of_ok hfirst hlast), ?_⟩
    rw [← List.append_assoc, ← List.append_assoc]
    exact List.perm_append_comm.append_right last
  | trans _ _ ihfirst ihsecond =>
    obtain ⟨middle, hmiddle, hperm⟩ := ihfirst hbody
    obtain ⟨found, hfound, hrest⟩ := ihsecond hmiddle
    exact ⟨found, hfound, hperm.trans hrest⟩

/-- A statement has the same events in another order if the module that it descends to has. -/
theorem events_congr (h : ∀ target segment events, descend target segment = .ok events →
      ∃ found, other target segment = .ok found ∧ events.Perm found)
    {declaration : Declaration} {events : List Event}
    (hevents : place.events descend declaration = .ok events) :
    ∃ found, place.events other declaration = .ok found ∧ events.Perm found := by
  cases declaration with
  | wildcard source =>
    change (if Specifier.isPath source then _ else _) = _ at hevents
    show ∃ found, (if Specifier.isPath source then _ else _) = _ ∧ _
    split at hevents
    · next hpath =>
      rw [if_pos hpath]
      exact h _ _ _ hevents
    · next hpath =>
      rw [if_neg hpath]
      exact ⟨events, hevents, .refl _⟩
  | star source exported => exact ⟨events, hevents, .refl _⟩
  | named source specifiers => cases source <;> exact ⟨events, hevents, .refl _⟩
  | declared names nameless => exact ⟨events, hevents, .refl _⟩
  | default => exact ⟨events, hevents, .refl _⟩
  | other => exact ⟨events, hevents, .refl _⟩

theorem eventsOf_congr (h : ∀ target segment events, descend target segment = .ok events →
      ∃ found, other target segment = .ok found ∧ events.Perm found)
    {declarations : List Declaration} {body : List Event}
    (hbody : place.eventsOf descend declarations = .ok body) :
    ∃ found, place.eventsOf other declarations = .ok found ∧ body.Perm found := by
  induction declarations generalizing body with
  | nil => exact ⟨body, hbody, .refl _⟩
  | cons declaration rest ih =>
    obtain ⟨first, others, hfirst, hothers, rfl⟩ := eventsOf_cons_eq_ok hbody
    obtain ⟨found, hfound, hperm⟩ := events_congr h hfirst
    obtain ⟨remaining, hremaining, hrest⟩ := ih hothers
    exact ⟨found ++ remaining, eventsOf_cons_of_ok hfound hremaining, hperm.append hrest⟩

end Place

/-- Modules with rearranged statements are walked with the same events in another order. -/
theorem Modules.log_perm {modules other : Modules} (h : modules.Rearranges other) {depth : Nat}
    {chain : List Path} {path file : Path} {segment : String} {viaWildcard : Bool}
    {events : List Event}
    (hlog : modules.log depth chain path segment viaWildcard = .ok (file, events)) :
    ∃ found, other.log depth chain path segment viaWildcard = .ok (file, found)
      ∧ events.Perm found := by
  induction depth generalizing chain path segment viaWildcard file events with
  | zero => cases hlog
  | succ depth ih =>
    obtain ⟨hlocate, ⟨hon, rfl⟩ | ⟨hoff, surface, body, hsurface, hbody, rfl⟩⟩ := log_cases hlog
    · rw [h.locate_eq] at hlocate
      exact ⟨_, log_of_onChain hlocate hon depth segment viaWildcard, .refl _⟩
    · obtain ⟨found, hfound, hrearranged⟩ := h.surface file surface hsurface
      rw [h.locate_eq] at hlocate
      have hdescend : ∀ target targetSegment events,
          modules.descend depth (file :: chain) target targetSegment = .ok events →
            ∃ found, other.descend depth (file :: chain) target targetSegment = .ok found
              ∧ events.Perm found := by
        intro target targetSegment events hevents
        obtain ⟨next, hnext⟩ := descend_eq_ok hevents
        obtain ⟨others, hothers, hperm⟩ := ih hnext
        refine ⟨others, ?_, hperm⟩
        rw [descend, hothers]
        rfl
      -- the statements are first walked in the old order, then in the new one
      obtain ⟨walked, hwalked, hperm⟩ := Place.eventsOf_congr hdescend hbody
      obtain ⟨rest, hrest, hrestPerm⟩ := Place.eventsOf_perm hrearranged.declarations_perm hwalked
      have hplace : Place.enter path segment viaWildcard file surface
          = Place.enter path segment viaWildcard file found := by
        rw [Place.enter, Place.enter, hrearranged.imported_eq]
      rw [hplace] at hrest
      refine ⟨.visit chain path segment viaWildcard :: rest, ?_,
        (hperm.trans hrestPerm).cons _⟩
      rw [log_of_not_onChain hlocate hoff hfound, hrest]
      rfl

/-! ## Events in another order -/

/-- What an event finds by itself. -/
def Event.finding? : Event → Option Diagnostic
  | .report kind file message => some ⟨kind, file, message⟩
  | _ => none

/-- All events that set a name set it to the same record. -/
def Event.Agree (events : List Event) : Prop :=
  ∀ event ∈ events, ∀ later ∈ events, ∀ name entry other,
    event.setting? = some (name, entry) → later.setting? = some (name, other) → entry = other

theorem Event.Agree.perm {events others : List Event} (h : Agree events)
    (hperm : events.Perm others) : Agree others :=
  fun event hevent later hlater =>
    h event (hperm.mem_iff.mpr hevent) later (hperm.mem_iff.mpr hlater)

namespace Walk

variable {walk : Walk} {events others : List Event}

/-- If nothing was replaced, all events agree. -/
theorem agree_of_notShadowed (h : (walk.replay events).NotShadowed) : Event.Agree events := by
  intro event hevent later hlater name entry other hentry hother
  have hfirst := get?_replay_of_not_shadowed h hevent hentry
  have hsecond := get?_replay_of_not_shadowed h hlater hother
  exact Option.some.inj (hfirst.symm.trans hsecond)

/-- An event that agrees with the map finds only what it finds by itself. -/
theorem diagnostics_apply (event : Event)
    (h : ∀ name entry old, event.setting? = some (name, entry) →
      walk.exports.get? name = some old → old = entry) :
    (event.apply walk).diagnostics = walk.diagnostics ++ event.finding?.toList := by
  cases event with
  | visit => simp [Event.apply, Event.finding?]
  | report kind file message => rfl
  | record place name origin =>
    simp only [Event.apply, Event.finding?, Option.toList_none, List.append_nil]
    unfold record
    split
    · rfl
    · next hnot =>
      have hset : (Event.record place name origin).setting?
          = some (name, place.entryOf name origin) :=
        Event.setting?_record (by simpa using hnot) origin
      simp only [reportShadowing]
      split
      · next old hold => rw [if_pos (h name _ old hset hold)]
      · rfl

/-- Events that agree with each other and with the map find only what they find by themselves. -/
theorem diagnostics_replay_of_agree (hagree : Event.Agree events)
    (h : ∀ event ∈ events, ∀ name entry old, event.setting? = some (name, entry) →
      walk.exports.get? name = some old → old = entry) :
    (walk.replay events).diagnostics = walk.diagnostics ++ events.filterMap Event.finding? := by
  induction events generalizing walk with
  | nil => simp
  | cons event rest ih =>
    rw [replay_cons, ih, diagnostics_apply event (h event List.mem_cons_self)]
    · cases hfinding : event.finding? <;> simp [hfinding]
    · exact fun first hfirst later hlater =>
        hagree first (List.mem_cons_of_mem _ hfirst) later (List.mem_cons_of_mem _ hlater)
    · intro later hlater name entry old hentry hold
      rw [exports_apply] at hold
      cases hset : event.setting? with
      | none =>
        rw [hset] at hold
        exact h later (List.mem_cons_of_mem _ hlater) name entry old hentry hold
      | some pair =>
        obtain ⟨key, set⟩ := pair
        rw [hset] at hold
        simp only [ExportMap.get?_insert] at hold
        split at hold
        · next hkey =>
          subst hkey
          cases hold
          exact hagree event List.mem_cons_self later (List.mem_cons_of_mem _ hlater) _ _ _ hset
            hentry
        · exact h later (List.mem_cons_of_mem _ hlater) name entry old hentry hold

/-- A name that no event sets keeps what it had. -/
theorem get?_replay_of_not_set {name : String}
    (h : ∀ event ∈ events, ∀ entry, event.setting? ≠ some (name, entry)) :
    (walk.replay events).exports.get? name = walk.exports.get? name := by
  induction events generalizing walk with
  | nil => rfl
  | cons event rest ih =>
    rw [replay_cons, ih fun later hlater => h later (List.mem_cons_of_mem _ hlater), exports_apply]
    cases hset : event.setting? with
    | none => rfl
    | some pair =>
      obtain ⟨key, set⟩ := pair
      simp only [ExportMap.get?_insert]
      rw [if_neg]
      rintro rfl
      exact h event List.mem_cons_self set hset

/-- If nothing was replaced, the same events in another order replace nothing either, set the same
names alike and find the same. -/
theorem replay_perm (hperm : events.Perm others) (h : (empty.replay events).NotShadowed) :
    (empty.replay others).NotShadowed
      ∧ (∀ name, (empty.replay others).exports.get? name = (empty.replay events).exports.get? name)
      ∧ (empty.replay others).diagnostics.Perm (empty.replay events).diagnostics := by
  have hagree := agree_of_notShadowed h
  have hnothing {list : List Event} : ∀ event ∈ list, ∀ name entry old,
      event.setting? = some (name, entry) → empty.exports.get? name = some old → old = entry := by
    intro event _ name entry old _ hold
    cases hold
  have hdiagnostics : (empty.replay others).diagnostics.Perm (empty.replay events).diagnostics := by
    rw [diagnostics_replay_of_agree hagree hnothing,
      diagnostics_replay_of_agree (hagree.perm hperm) hnothing]
    exact (hperm.symm.filterMap _).append_left _
  have hothers : (empty.replay others).NotShadowed :=
    fun diagnostic hmem => h diagnostic (hdiagnostics.mem_iff.mp hmem)
  refine ⟨hothers, fun name => ?_, hdiagnostics⟩
  by_cases hset : ∃ event ∈ events, ∃ entry, event.setting? = some (name, entry)
  · obtain ⟨event, hevent, entry, hentry⟩ := hset
    rw [get?_replay_of_not_shadowed h hevent hentry,
      get?_replay_of_not_shadowed hothers (hperm.mem_iff.mp hevent) hentry]
  · have hunset : ∀ event ∈ events, ∀ entry, event.setting? ≠ some (name, entry) :=
      fun event hevent entry hentry => hset ⟨event, hevent, entry, hentry⟩
    rw [get?_replay_of_not_set hunset,
      get?_replay_of_not_set fun event hevent => hunset event (hperm.mem_iff.mpr hevent)]

end Walk

/-! ## Maps without their order -/

theorem ExportMap.mem_of_get? {map : ExportMap} {name : String} {entry : ExportRecord}
    (h : map.get? name = some entry) : (name, entry) ∈ map := by
  induction map with
  | nil => cases h
  | cons first rest ih =>
    obtain ⟨key, old⟩ := first
    rw [get?] at h
    split at h
    · next hkey =>
      subst hkey
      cases h
      exact List.mem_cons_self
    · exact List.mem_cons_of_mem _ (ih h)

/-- Maps with different names that lead every name to the same record have the same entries. -/
theorem ExportMap.perm_of_get? {map other : ExportMap} (hmap : map.names.Nodup)
    (hother : other.names.Nodup) (h : ∀ name, map.get? name = other.get? name) :
    map.Perm other := by
  rw [List.perm_ext_iff_of_nodup (List.Nodup.of_map _ hmap) (List.Nodup.of_map _ hother)]
  rintro ⟨name, entry⟩
  constructor
  · intro hmem
    have hget := get?_of_mem hmap hmem
    rw [h] at hget
    exact mem_of_get? hget
  · intro hmem
    have hget := get?_of_mem hother hmem
    rw [← h] at hget
    exact mem_of_get? hget

/-! ## Barrels -/

namespace FileSystem

variable {fs other : FileSystem}

/-- Lookup does not read files. -/
theorem Rearranges.locate_eq (h : fs.Rearranges other) : fs.locate = other.locate := by
  obtain ⟨read, metadata, list, cwd, depth⟩ := fs
  obtain ⟨otherRead, otherMetadata, otherList, otherCwd, otherDepth⟩ := other
  obtain ⟨hmetadata, hlist, -, -, -⟩ := h
  cases hmetadata
  cases hlist
  rfl

theorem Rearranges.modules (h : fs.Rearranges other) : fs.modules.Rearranges other.modules where
  locate_eq := h.locate_eq
  surface := h.surface

theorem Rearranges.absolute_eq (h : fs.Rearranges other) (path : Path) :
    fs.absolute path = other.absolute path := by
  unfold absolute
  rw [h.cwd_eq]

/-- If a barrel is flattened and no record was replaced, then with the statements of its files in
any other order it is flattened too, no record is replaced, and the exports and findings are the
same up to order. -/
theorem flatten_of_rearranges (h : fs.Rearranges other) {path : Path} {barrel : Barrel}
    (hflatten : fs.flatten path = .ok barrel)
    (hshadowed : ∀ diagnostic ∈ barrel.diagnostics, diagnostic.kind ≠ .shadowedExport) :
    ∃ found, other.flatten path = .ok found
      ∧ found.directory = barrel.directory ∧ found.rootFile = barrel.rootFile
      ∧ (∀ diagnostic ∈ found.diagnostics, diagnostic.kind ≠ .shadowedExport)
      ∧ (∀ name, found.get? name = barrel.get? name) ∧ found.exports.Perm barrel.exports
      ∧ found.diagnostics.Perm barrel.diagnostics := by
  obtain ⟨hdirectory, events, hlog, hreplay⟩ := log_of_flatten hflatten
  obtain ⟨others, hothers, hperm⟩ := Modules.log_perm h.modules hlog
  rw [h.absolute_eq] at hdirectory
  rw [h.depth_eq] at hothers
  have hnot : (Walk.empty.replay events).NotShadowed := by
    rw [hreplay]
    exact hshadowed
  obtain ⟨hfoundNot, hget, hdiagnostics⟩ := Walk.replay_perm hperm hnot
  have hempty : Walk.empty.exports.names.Nodup := List.nodup_nil
  have hnames (events : List Event) : (Walk.empty.replay events).exports.names.Nodup :=
    Walk.nodup_names_replay hempty events
  have hexports := ExportMap.perm_of_get? (hnames others) (hnames events) hget
  rw [hreplay] at hget hdiagnostics hexports
  have hfound : other.flatten path = .ok ⟨barrel.directory, barrel.rootFile,
      (Walk.empty.replay others).exports, (Walk.empty.replay others).diagnostics⟩ := by
    rw [flatten_eq_log hdirectory, hothers]
    rfl
  exact ⟨_, hfound, rfl, rfl, hfoundNot, hget, hexports, hdiagnostics⟩

/-- A file system in which one file holds another text. -/
def withText (fs : FileSystem) (file : Path) (text : String) : FileSystem :=
  { fs with read := fun path => if path.Same file then .ok text else fs.read path }

end FileSystem

namespace Fixture

/-- A fixture is rearranged by a text for one of its files that is. -/
theorem rearranges_withText {fixture : Fixture} {file : Path} {text : String}
    {surface found : Surface} (hsurface : fixture.view.modules.surface file = .ok surface)
    (hfound : Surface.parse? file text = some found) (h : surface.Rearranges found) :
    fixture.view.Rearranges (fixture.view.withText file text) := by
  refine ⟨rfl, rfl, rfl, rfl, fun path known hknown => ?_⟩
  by_cases hsame : path.Same file
  · -- a path with the same components leads to the same text
    obtain ⟨source, hread, hparse⟩ := FileSystem.surface_eq_ok_iff.mp hknown
    rw [FileSystem.parse?_of_same hsame] at hparse
    have hfile : fixture.view.modules.surface file = .ok known :=
      FileSystem.surface_eq_ok_iff.mpr ⟨source, read_of_same hsame hread, hparse⟩
    cases hsurface.symm.trans hfile
    refine ⟨found, FileSystem.surface_eq_ok_iff.mpr ⟨text, if_pos hsame, ?_⟩, h⟩
    rw [FileSystem.parse?_of_same hsame]
    exact hfound
  · obtain ⟨source, hread, hparse⟩ := FileSystem.surface_eq_ok_iff.mp hknown
    refine ⟨known, FileSystem.surface_eq_ok_iff.mpr ⟨source, ?_, hparse⟩, .refl _, rfl⟩
    exact (if_neg hsame).trans hread

end Fixture

theorem FileSystem.flatten_of_rearranges_ring :
    Fixture.ring.view.Rearranges
        (Fixture.ring.view.withText ⟨"/b/index.ts"⟩ "export default 1; export * from './x';")
      ∧ ∃ barrel, Fixture.ring.view.flatten ⟨"/b"⟩ = .ok barrel
        ∧ barrel.exports.names = ["A", Walk.defaultName]
        ∧ (∀ diagnostic ∈ barrel.diagnostics, diagnostic.kind ≠ .shadowedExport)
        ∧ ∃ found, (Fixture.ring.view.withText ⟨"/b/index.ts"⟩
              "export default 1; export * from './x';").flatten ⟨"/b"⟩ = .ok found
          ∧ found.exports.Perm barrel.exports ∧ found.diagnostics.Perm barrel.diagnostics := by
  have hsurface : Fixture.ring.view.modules.surface ⟨"/b/index.ts"⟩
      = .ok ⟨[.wildcard "./x", .default], []⟩ := by decide +kernel
  have hparse : Surface.parse? ⟨"/b/index.ts"⟩ "export default 1; export * from './x';"
      = some ⟨[.default, .wildcard "./x"], []⟩ := by decide +kernel
  have hrearranges := Fixture.rearranges_withText hsurface hparse ⟨.swap _ _ _, rfl⟩
  have hshadowed : ∀ diagnostic ∈ [(⟨.cyclicReExport, ⟨"/b/index.ts"⟩,
      cycleText ⟨"/b/index.ts"⟩⟩ : Diagnostic)], diagnostic.kind ≠ .shadowedExport := by
    decide
  obtain ⟨found, hfound, -, -, -, -, hexports, hdiagnostics⟩ :=
    FileSystem.flatten_of_rearranges hrearranges Fixture.flatten_ring hshadowed
  exact ⟨hrearranges, _, Fixture.flatten_ring, rfl, hshadowed, found, hfound, hexports,
    hdiagnostics⟩

end DirectImports
