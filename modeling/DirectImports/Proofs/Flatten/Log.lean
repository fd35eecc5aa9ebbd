import DirectImports.Barrel.Flatten

/-!
# The log of a walk

A walk changes what it has collected as it goes. Here the same walk is written so that it only
keeps a log of what happens (`Modules.log`): which modules are visited and with which segment,
which names are recorded and where they come from, and what is found. Replaying the log gives the
walk back, whatever was collected before (`visit_eq_log`).

So a question about a walk is a question about the events of its log, and these do not depend on
what was collected. `log_cases` says once what a visit can do; everything else is derived from it.
-/

namespace DirectImports

/-! ## Where an exported name comes from -/

/-- What an exported name stands for in the module that exports it. -/
inductive Origin
  /-- something of the module itself -/
  | own (binding : String)
  /-- what the module `source` exports as `name` -/
  | forward (source name : String)
deriving DecidableEq, Repr

/-- The names that a statement exports one by one, and where they come from. -/
def Declaration.explicit : Declaration → List (String × Origin)
  | .wildcard _ => []
  | .star _ _ => []
  | .named none specifiers => specifiers.map fun s => (s.exported, .own s.name)
  | .named (some source) specifiers => specifiers.map fun s => (s.exported, .forward source s.name)
  | .declared names _ => names.map fun name => (name, .own name)
  | .default => [(Walk.defaultName, .own Walk.defaultName)]
  | .other => []

/-- The names that a statement exports one by one, also those of namespaces. -/
def Declaration.names : Declaration → List String
  | .star _ exported => [exported]
  | declaration => declaration.explicit.map (·.1)

/-- What a walk records of a statement: no imported names without `from`. -/
def Declaration.offers (imported : List String) : Declaration → List (String × Origin)
  | .named none specifiers =>
    (specifiers.filter fun s => !imported.contains s.name).map fun s => (s.exported, .own s.name)
  | declaration => declaration.explicit

theorem Declaration.offers_subset_explicit (imported : List String) (declaration : Declaration) :
    declaration.offers imported ⊆ declaration.explicit := by
  cases declaration with
  | named source specifiers =>
    cases source with
    | none => exact List.map_subset _ List.filter_sublist.subset
    | some source => exact List.Subset.refl _
  | wildcard => exact List.Subset.refl _
  | star => exact List.Subset.refl _
  | declared => exact List.Subset.refl _
  | default => exact List.Subset.refl _
  | other => exact List.Subset.refl _

namespace Surface

/-- The names that a module exports one by one, and where they come from. -/
def explicit (surface : Surface) : List (String × Origin) :=
  surface.declarations.flatMap (·.explicit)

/-- The names that a module exports one by one, also those of namespaces. -/
def names (surface : Surface) : List String :=
  surface.declarations.flatMap (·.names)

/-- The names of a module that a walk records. -/
def offers (surface : Surface) : List (String × Origin) :=
  surface.declarations.flatMap (·.offers surface.imported)

theorem offers_subset_explicit (surface : Surface) : surface.offers ⊆ surface.explicit := by
  intro entry hentry
  obtain ⟨declaration, hmem, hin⟩ := List.mem_flatMap.mp hentry
  exact List.mem_flatMap.mpr
    ⟨declaration, hmem, declaration.offers_subset_explicit surface.imported hin⟩

end Surface

/-- The record of a name that comes from somewhere. -/
def Place.entryOf (place : Place) (name : String) : Origin → ExportRecord
  | .own _ => ⟨place.segment, none⟩
  | .forward source inner =>
    ⟨place.segmentOf source, if inner != name then some inner else none⟩

/-! ## Events -/

/-- One thing that happens during a walk. -/
inductive Event
  /-- the module of a path is visited; `chain` holds the files that led to it -/
  | visit (chain : List Path) (path : Path) (segment : String) (viaWildcard : Bool)
  /-- something is found -/
  | report (kind : DiagnosticKind) (file : Path) (message : String)
  /-- a name is recorded -/
  | record (place : Place) (name : String) (origin : Origin)

namespace Event

/-- What an event changes. -/
def apply (walk : Walk) : Event → Walk
  | .visit .. => walk
  | .report kind file message => walk.report kind file message
  | .record place name origin =>
    walk.record place.file place.viaWildcard name (place.entryOf name origin)

end Event

/-- What is collected after some events. -/
def Walk.replay (walk : Walk) (events : List Event) : Walk :=
  events.foldl Event.apply walk

@[simp] theorem Walk.replay_nil (walk : Walk) : walk.replay [] = walk := rfl

@[simp] theorem Walk.replay_cons (walk : Walk) (event : Event) (events : List Event) :
    walk.replay (event :: events) = (event.apply walk).replay events := rfl

@[simp] theorem Walk.replay_append (walk : Walk) (first second : List Event) :
    walk.replay (first ++ second) = (walk.replay first).replay second :=
  List.foldl_append

/-! ## The log -/

namespace Place

/-- The event of one entry of `export { … }`. -/
def localEvent (place : Place) (specifier : Source.ExportSpecifier) : Event :=
  if place.imported.contains specifier.name then
    .report .importedBindingReExport place.file (importedText specifier.exported)
  else .record place specifier.exported (.own specifier.name)

/-- The events of one statement; `descend` gives those of the module of an `export *`. -/
def events (place : Place) (descend : Path → String → Except BarrelError (List Event)) :
    Declaration → Except BarrelError (List Event)
  | .wildcard source =>
    if Specifier.isPath source then
      descend (place.baseDir.joinDir source) (Specifier.join place.baseSegment source)
    else .ok [.report .unsupportedReExport place.file (packageText source)]
  | .star source exported =>
    .ok [.report .unsupportedReExport place.file (namespaceText source exported)]
  | .named none specifiers => .ok (specifiers.map place.localEvent)
  | .named (some source) specifiers =>
    .ok (specifiers.map fun s => .record place s.exported (.forward source s.name))
  | .declared names nameless =>
    .ok (nameless.map (fun reason => .report .malformedDeclaration place.file reason.message)
      ++ names.map fun name => .record place name (.own name))
  | .default => .ok [.record place Walk.defaultName (.own Walk.defaultName)]
  | .other => .ok []

end Place

/-- The events of several statements, one after the other. -/
def Place.eventsOf (place : Place) (descend : Path → String → Except BarrelError (List Event)) :
    List Declaration → Except BarrelError (List Event)
  | [] => .ok []
  | declaration :: rest => do
    let first ← place.events descend declaration
    let others ← place.eventsOf descend rest
    return first ++ others

/-- The file that a path leads to, and what happens while it is walked. -/
def Modules.log (modules : Modules) : Nat → List Path → Path → String → Bool →
    Except BarrelError (Path × List Event)
  | 0, _, path, _, _ => .error (.tooDeep path)
  | depth + 1, chain, path, segment, viaWildcard => do
    let file ← modules.locate path
    if onChain chain file then
      return (file, [.visit chain path segment viaWildcard,
        .report .cyclicReExport file (cycleText file)])
    else
      let surface ← modules.surface file
      let place := Place.enter path segment viaWildcard file surface
      let descend := fun target targetSegment => do
        let logged ← modules.log depth (file :: chain) target targetSegment true
        return logged.2
      let events ← place.eventsOf descend surface.declarations
      return (file, .visit chain path segment viaWildcard :: events)

/-- The events of the module of an `export *`. -/
def Modules.descend (modules : Modules) (depth : Nat) (chain : List Path) (target : Path)
    (segment : String) : Except BarrelError (List Event) := do
  let logged ← modules.log depth chain target segment true
  return logged.2

/-! ## Replaying the log -/

theorem replay_localEvents (place : Place) (specifiers : List Source.ExportSpecifier)
    (walk : Walk) :
    walk.replay (specifiers.map place.localEvent) = specifiers.foldl place.recordLocal walk := by
  induction specifiers generalizing walk with
  | nil => rfl
  | cons s rest ih =>
    rw [List.map_cons, Walk.replay_cons, List.foldl_cons, ← ih]
    congr 1
    unfold Place.localEvent Place.recordLocal
    split <;> rfl

theorem replay_map (f : α → Event) (g : Walk → α → Walk) (h : ∀ walk a, (f a).apply walk = g walk a)
    (as : List α) (walk : Walk) : walk.replay (as.map f) = as.foldl g walk := by
  induction as generalizing walk with
  | nil => rfl
  | cons a as ih => rw [List.map_cons, Walk.replay_cons, List.foldl_cons, h, ih]

/-- A statement does what its events do. -/
theorem step_eq_events {place : Place} {descend : Path → String → Walk → Except BarrelError Walk}
    {descendLog : Path → String → Except BarrelError (List Event)}
    (h : ∀ target segment walk,
      descend target segment walk = (descendLog target segment).map walk.replay)
    (walk : Walk) (declaration : Declaration) :
    place.step descend walk declaration
      = (place.events descendLog declaration).map walk.replay := by
  cases declaration with
  | wildcard source =>
    show (if Specifier.isPath source then _ else _)
      = Except.map _ (if Specifier.isPath source then _ else _)
    split
    · exact h _ _ walk
    · rfl
  | star source exported => rfl
  | named source specifiers =>
    cases source with
    | none =>
      show Except.ok _ = Except.ok _
      rw [replay_localEvents]
    | some source =>
      show Except.ok _ = Except.ok _
      rw [replay_map _ (place.recordFrom source)]
      exact fun _ _ => rfl
  | declared names nameless =>
    show Except.ok _ = Except.ok _
    rw [Walk.replay_append, replay_map _ (fun walk (reason : Source.NamelessReason) =>
        walk.report .malformedDeclaration place.file reason.message) (fun _ _ => rfl),
      replay_map _ place.recordOwn (fun _ _ => rfl)]
  | default => rfl
  | other => rfl

/-- Statements do what their events do. -/
theorem foldlM_step_eq_eventsOf {place : Place}
    {descend : Path → String → Walk → Except BarrelError Walk}
    {descendLog : Path → String → Except BarrelError (List Event)}
    (h : ∀ target segment walk,
      descend target segment walk = (descendLog target segment).map walk.replay)
    (declarations : List Declaration) (walk : Walk) :
    declarations.foldlM (place.step descend) walk
      = (place.eventsOf descendLog declarations).map walk.replay := by
  induction declarations generalizing walk with
  | nil => rfl
  | cons declaration rest ih =>
    rw [List.foldlM_cons, step_eq_events h, Place.eventsOf]
    cases place.events descendLog declaration with
    | error error => rfl
    | ok first =>
      show rest.foldlM (place.step descend) (walk.replay first) = _
      rw [ih]
      show _ = Except.map walk.replay (place.eventsOf descendLog rest >>= _)
      cases place.eventsOf descendLog rest with
      | error error => rfl
      | ok others =>
        show Except.ok _ = Except.ok _
        rw [Walk.replay_append]

/-- A walk replays its log, whatever was collected before. -/
theorem Modules.visit_eq_log (modules : Modules) (depth : Nat) (chain : List Path) (path : Path)
    (segment : String) (viaWildcard : Bool) (walk : Walk) :
    modules.visit depth chain path segment viaWildcard walk
      = (modules.log depth chain path segment viaWildcard).map
          fun logged => (logged.1, walk.replay logged.2) := by
  -- the walk is generalised: what was collected before differs from visit to visit
  induction depth generalizing chain path segment viaWildcard walk with
  | zero => rfl
  | succ depth ih =>
    unfold Modules.visit Modules.log
    cases modules.locate path with
    | error error => rfl
    | ok file =>
      show (if onChain chain file then _ else _)
        = Except.map _ (if onChain chain file then _ else _)
      split
      · rfl
      · cases modules.surface file with
        | error error => rfl
        | ok surface =>
          have hdescend (target : Path) (targetSegment : String) (walk : Walk) :
              (do
                let visited ← modules.visit depth (file :: chain) target targetSegment true walk
                return visited.2)
              = (modules.descend depth (file :: chain) target targetSegment).map walk.replay := by
            rw [ih, Modules.descend]
            cases modules.log depth (file :: chain) target targetSegment true <;> rfl
          show (surface.declarations.foldlM _ walk >>= _)
            = Except.map _ (Place.eventsOf _ _ _ >>= _)
          rw [foldlM_step_eq_eventsOf hdescend]
          show _ = Except.map _ (Place.eventsOf _ (modules.descend depth (file :: chain)) _ >>= _)
          cases Place.eventsOf _ (modules.descend depth (file :: chain)) surface.declarations with
          | error error => rfl
          | ok body => rfl

/-! ## What a log holds -/

theorem Modules.descend_eq_ok {modules : Modules} {depth : Nat} {chain : List Path} {target : Path}
    {segment : String} {events : List Event}
    (h : modules.descend depth chain target segment = .ok events) :
    ∃ file, modules.log depth chain target segment true = .ok (file, events) := by
  unfold Modules.descend at h
  cases hlog : modules.log depth chain target segment true with
  | error error => rw [hlog] at h; cases h
  | ok logged =>
    rw [hlog] at h
    cases h
    exact ⟨logged.1, rfl⟩

/-- What one visit does: it ends at a file of the chain, or goes through the statements of a new
file. -/
theorem Modules.log_cases {modules : Modules} {depth : Nat} {chain : List Path} {path file : Path}
    {segment : String} {viaWildcard : Bool} {events : List Event}
    (h : modules.log (depth + 1) chain path segment viaWildcard = .ok (file, events)) :
    modules.locate path = .ok file
      ∧ ((onChain chain file = true ∧ events = [.visit chain path segment viaWildcard,
            .report .cyclicReExport file (cycleText file)])
        ∨ (onChain chain file = false ∧ ∃ surface body, modules.surface file = .ok surface
            ∧ (Place.enter path segment viaWildcard file surface).eventsOf
                (modules.descend depth (file :: chain)) surface.declarations = .ok body
            ∧ events = .visit chain path segment viaWildcard :: body)) := by
  unfold Modules.log at h
  cases hfile : modules.locate path with
  | error error => rw [hfile] at h; cases h
  | ok found =>
    rw [hfile] at h
    change (if onChain chain found then _ else _) = _ at h
    split at h
    · next hon =>
      cases h
      exact ⟨rfl, Or.inl ⟨hon, rfl⟩⟩
    · next hoff =>
      cases hsurface : modules.surface found with
      | error error => rw [hsurface] at h; cases h
      | ok surface =>
        rw [hsurface] at h
        change (Place.eventsOf _ (modules.descend depth (found :: chain)) _ >>= _) = _ at h
        cases hbody : (Place.enter path segment viaWildcard found surface).eventsOf
            (modules.descend depth (found :: chain)) surface.declarations with
        | error error => rw [hbody] at h; cases h
        | ok body =>
          rw [hbody] at h
          cases h
          exact ⟨rfl, Or.inr ⟨by simpa using hoff, surface, body, hsurface, hbody, rfl⟩⟩

/-- A visit ends at a file of the chain. -/
theorem Modules.log_of_onChain {modules : Modules} {chain : List Path} {path file : Path}
    (hlocate : modules.locate path = .ok file) (hon : onChain chain file = true) (depth : Nat)
    (segment : String) (viaWildcard : Bool) :
    modules.log (depth + 1) chain path segment viaWildcard
      = .ok (file, [.visit chain path segment viaWildcard,
          .report .cyclicReExport file (cycleText file)]) := by
  unfold Modules.log
  rw [hlocate]
  show (if onChain chain file then _ else _) = _
  rw [if_pos hon]
  rfl

/-- A visit goes through the statements of a new file. -/
theorem Modules.log_of_not_onChain {modules : Modules} {chain : List Path} {path file : Path}
    {surface : Surface} (hlocate : modules.locate path = .ok file)
    (hoff : onChain chain file = false) (hsurface : modules.surface file = .ok surface)
    (depth : Nat) (segment : String) (viaWildcard : Bool) :
    modules.log (depth + 1) chain path segment viaWildcard
      = ((Place.enter path segment viaWildcard file surface).eventsOf
          (modules.descend depth (file :: chain)) surface.declarations).map
            fun body => (file, .visit chain path segment viaWildcard :: body) := by
  unfold Modules.log
  rw [hlocate]
  show (if onChain chain file then _ else _) = _
  rw [if_neg (by simp [hoff]), hsurface]
  show (Place.eventsOf _ (modules.descend depth (file :: chain)) _ >>= _) = _
  cases Place.eventsOf _ (modules.descend depth (file :: chain)) surface.declarations <;> rfl

/-- The kinds of what a statement finds by itself, and not in the module of an `export *`. -/
def DiagnosticKind.isOfStatement : DiagnosticKind → Bool
  | .malformedDeclaration | .unsupportedReExport | .importedBindingReExport => true
  | .cyclicReExport | .shadowedExport | .unresolvedName => false

namespace Place

variable {place : Place} {descend : Path → String → Except BarrelError (List Event)}

theorem eventsOf_cons_of_ok {declaration : Declaration} {rest : List Declaration}
    {first others : List Event} (hfirst : place.events descend declaration = .ok first)
    (hrest : place.eventsOf descend rest = .ok others) :
    place.eventsOf descend (declaration :: rest) = .ok (first ++ others) := by
  unfold eventsOf
  rw [hfirst, hrest]
  rfl

theorem eventsOf_cons_eq_ok {declaration : Declaration} {rest : List Declaration}
    {body : List Event} (h : place.eventsOf descend (declaration :: rest) = .ok body) :
    ∃ first others, place.events descend declaration = .ok first
      ∧ place.eventsOf descend rest = .ok others ∧ body = first ++ others := by
  unfold eventsOf at h
  cases hfirst : place.events descend declaration with
  | error error => rw [hfirst] at h; cases h
  | ok first =>
    cases hrest : place.eventsOf descend rest with
    | error error => rw [hfirst, hrest] at h; cases h
    | ok others =>
      rw [hfirst, hrest] at h
      cases h
      exact ⟨first, others, rfl, rfl, rfl⟩

/-- Every event of several statements is one of a statement. -/
theorem exists_of_mem_eventsOf {declarations : List Declaration} {body : List Event}
    (h : place.eventsOf descend declarations = .ok body) {event : Event} (hevent : event ∈ body) :
    ∃ declaration ∈ declarations, ∃ events,
      place.events descend declaration = .ok events ∧ event ∈ events := by
  induction declarations generalizing body with
  | nil => cases h; cases hevent
  | cons declaration rest ih =>
    obtain ⟨first, others, hfirst, hrest, rfl⟩ := eventsOf_cons_eq_ok h
    rcases List.mem_append.mp hevent with hmem | hmem
    · exact ⟨declaration, by simp, first, hfirst, hmem⟩
    · obtain ⟨d, hd, events, hevents, hin⟩ := ih hrest hmem
      exact ⟨d, by simp [hd], events, hevents, hin⟩

/-- Every statement has its events among those of all statements. -/
theorem exists_events_of_mem {declarations : List Declaration} {body : List Event}
    (h : place.eventsOf descend declarations = .ok body) {declaration : Declaration}
    (hmem : declaration ∈ declarations) :
    ∃ events, place.events descend declaration = .ok events ∧ events ⊆ body := by
  induction declarations generalizing body with
  | nil => cases hmem
  | cons first rest ih =>
    obtain ⟨events, others, hfirst, hrest, rfl⟩ := eventsOf_cons_eq_ok h
    rcases List.mem_cons.mp hmem with rfl | hin
    · exact ⟨events, hfirst, List.subset_append_left _ _⟩
    · obtain ⟨found, hfound, hsub⟩ := ih hrest hin
      exact ⟨found, hfound, List.subset_append_of_subset_right _ hsub⟩

/-- What one statement does: it visits the module of an `export *`, finds something, or records
what it offers. -/
theorem events_cases {declaration : Declaration} {events : List Event}
    (h : place.events descend declaration = .ok events) {event : Event} (hevent : event ∈ events) :
    (∃ source, declaration = .wildcard source ∧ Specifier.isPath source = true
        ∧ descend (place.baseDir.joinDir source) (Specifier.join place.baseSegment source)
          = .ok events)
      ∨ (∃ kind message, event = .report kind place.file message ∧ kind.isOfStatement = true)
      ∨ (∃ name origin, event = .record place name origin
          ∧ (name, origin) ∈ declaration.offers place.imported) := by
  cases declaration with
  | wildcard source =>
    change (if Specifier.isPath source then _ else _) = _ at h
    split at h
    · next hpath => exact Or.inl ⟨source, rfl, hpath, h⟩
    · cases h
      rw [List.mem_singleton.mp hevent]
      exact Or.inr (Or.inl ⟨_, _, rfl, rfl⟩)
  | star source exported =>
    cases h
    rw [List.mem_singleton.mp hevent]
    exact Or.inr (Or.inl ⟨_, _, rfl, rfl⟩)
  | named source specifiers =>
    cases source with
    | none =>
      cases h
      obtain ⟨specifier, hspecifier, rfl⟩ := List.mem_map.mp hevent
      unfold localEvent
      split
      · exact Or.inr (Or.inl ⟨_, _, rfl, rfl⟩)
      · next hnot =>
        refine Or.inr (Or.inr ⟨_, _, rfl, ?_⟩)
        have hfree : (!place.imported.contains specifier.name) = true := by simpa using hnot
        exact List.mem_map.mpr ⟨specifier, List.mem_filter.mpr ⟨hspecifier, hfree⟩, rfl⟩
    | some source =>
      cases h
      obtain ⟨specifier, hspecifier, rfl⟩ := List.mem_map.mp hevent
      exact Or.inr (Or.inr ⟨_, _, rfl, List.mem_map.mpr ⟨specifier, hspecifier, rfl⟩⟩)
  | declared names nameless =>
    cases h
    rcases List.mem_append.mp hevent with hmem | hmem
    · obtain ⟨reason, -, rfl⟩ := List.mem_map.mp hmem
      exact Or.inr (Or.inl ⟨_, _, rfl, rfl⟩)
    · obtain ⟨name, hname, rfl⟩ := List.mem_map.mp hmem
      exact Or.inr (Or.inr ⟨_, _, rfl, List.mem_map.mpr ⟨name, hname, rfl⟩⟩)
  | default =>
    cases h
    rw [List.mem_singleton.mp hevent]
    exact Or.inr (Or.inr ⟨_, _, rfl, by simp [Declaration.offers, Declaration.explicit]⟩)
  | other => cases h; cases hevent

/-- Whatever a statement offers is recorded. -/
theorem record_mem_events {declaration : Declaration} {events : List Event}
    (h : place.events descend declaration = .ok events) {name : String} {origin : Origin}
    (hoffer : (name, origin) ∈ declaration.offers place.imported) :
    .record place name origin ∈ events := by
  cases declaration with
  | wildcard source => cases hoffer
  | star source exported => cases hoffer
  | named source specifiers =>
    cases source with
    | none =>
      cases h
      obtain ⟨specifier, hspecifier, heq⟩ := List.mem_map.mp hoffer
      obtain ⟨hmem, hnot⟩ := List.mem_filter.mp hspecifier
      cases heq
      refine List.mem_map.mpr ⟨specifier, hmem, ?_⟩
      unfold localEvent
      rw [if_neg (by simpa using hnot)]
    | some source =>
      cases h
      obtain ⟨specifier, hspecifier, heq⟩ := List.mem_map.mp hoffer
      cases heq
      exact List.mem_map.mpr ⟨specifier, hspecifier, rfl⟩
  | declared names nameless =>
    cases h
    obtain ⟨declared, hdeclared, heq⟩ := List.mem_map.mp hoffer
    cases heq
    exact List.mem_append_right _ (List.mem_map.mpr ⟨name, hdeclared, rfl⟩)
  | default =>
    cases h
    cases List.mem_singleton.mp hoffer
    exact List.mem_singleton.mpr rfl
  | other => cases hoffer

/-- What a statement exports and does not offer is a finding. -/
theorem mem_offers_or_report {declaration : Declaration} {events : List Event}
    (h : place.events descend declaration = .ok events) {name : String} {origin : Origin}
    (hexplicit : (name, origin) ∈ declaration.explicit) :
    (name, origin) ∈ declaration.offers place.imported
      ∨ ∃ kind message, .report kind place.file message ∈ events ∧ kind ≠ .cyclicReExport := by
  cases declaration with
  | wildcard source => cases hexplicit
  | star source exported => cases hexplicit
  | named source specifiers =>
    cases source with
    | none =>
      cases h
      obtain ⟨specifier, hspecifier, heq⟩ := List.mem_map.mp hexplicit
      cases heq
      by_cases himported : place.imported.contains specifier.name = true
      · refine Or.inr ⟨.importedBindingReExport, importedText specifier.exported, ?_, by simp⟩
        refine List.mem_map.mpr ⟨specifier, hspecifier, ?_⟩
        unfold localEvent
        rw [if_pos himported]
      · refine Or.inl (List.mem_map.mpr ⟨specifier, List.mem_filter.mpr ⟨hspecifier, ?_⟩, rfl⟩)
        simpa using himported
    | some source => exact Or.inl hexplicit
  | declared names nameless => exact Or.inl hexplicit
  | default => exact Or.inl hexplicit
  | other => cases hexplicit

/-- A name that a statement exports is offered or a finding. -/
theorem exists_mem_offers_or_report {declaration : Declaration} {events : List Event}
    (h : place.events descend declaration = .ok events) {name : String}
    (hname : name ∈ declaration.names) :
    (∃ origin, (name, origin) ∈ declaration.offers place.imported)
      ∨ ∃ kind message, .report kind place.file message ∈ events ∧ kind ≠ .cyclicReExport := by
  have hexplicit (hmem : name ∈ declaration.explicit.map (·.1)) :
      (∃ origin, (name, origin) ∈ declaration.offers place.imported)
        ∨ ∃ kind message, .report kind place.file message ∈ events ∧ kind ≠ .cyclicReExport := by
    obtain ⟨⟨key, origin⟩, hin, rfl⟩ := List.mem_map.mp hmem
    exact (mem_offers_or_report h hin).imp (fun hoffer => ⟨origin, hoffer⟩) id
  cases declaration with
  | star source exported =>
    cases h
    exact Or.inr ⟨_, _, List.mem_singleton.mpr rfl, by simp⟩
  | wildcard source => exact hexplicit hname
  | named source specifiers => exact hexplicit hname
  | declared names nameless => exact hexplicit hname
  | default => exact hexplicit hname
  | other => exact hexplicit hname

/-- An `export *` from something that is no path is a finding. -/
theorem isPath_or_report {source : String} {events : List Event}
    (h : place.events descend (.wildcard source) = .ok events) :
    Specifier.isPath source = true
      ∨ ∃ kind message, .report kind place.file message ∈ events ∧ kind ≠ .cyclicReExport := by
  change (if Specifier.isPath source then _ else _) = _ at h
  split at h
  · next hpath => exact Or.inl hpath
  · cases h
    exact Or.inr ⟨_, _, List.mem_singleton.mpr rfl, by simp⟩

end Place

end DirectImports
