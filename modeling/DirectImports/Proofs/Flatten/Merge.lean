import DirectImports.Proofs.Flatten.StatementOrder
import Mathlib.Data.List.Infix

/-!
# Walking apart and merging

All visits of a walk change one map and one list of findings. A visit that began with nothing and
were merged into what was collected before would come to the same: its records win, the names that
were there keep their places and the new ones follow (`Walk.Merges`). Only the findings about
replaced records depend on what was there, and these are made at exactly those contributions whose
name led to another record until then (`Contribution.shadowings`).

So in a flattened barrel each name has the record of its last contribution, and the names stand in
the order of their first ones (`FileSystem.visit_merges`).
-/

namespace DirectImports

/-! ## Contributions -/

/-- A name that a file contributes, and its record. -/
structure Contribution where
  file : Path
  name : String
  record : ExportRecord
deriving DecidableEq, Repr

/-- What an event contributes: no `default` that comes through an `export *`. -/
def Event.contribution? : Event → Option Contribution
  | .record place name origin =>
    if place.viaWildcard && name == Walk.defaultName then none
    else some ⟨place.file, name, place.entryOf name origin⟩
  | _ => none

/-- An event sets what it contributes. -/
theorem Event.setting?_eq_contribution? (event : Event) :
    event.setting? = event.contribution?.map fun c => (c.name, c.record) := by
  cases event with
  | visit => rfl
  | report => rfl
  | record place name origin =>
    simp only [setting?, contribution?]
    split <;> rfl

namespace Contribution

/-- The record that the last contribution of a name gives it. -/
def latest? (contributions : List Contribution) (name : String) : Option ExportRecord :=
  (contributions.reverse.find? fun contribution => contribution.name = name).map (·.record)

/-- The finding that a contribution replaces the record its name had. -/
def shadowing? (contribution : Contribution) (previous? : Option ExportRecord) :
    Option Diagnostic :=
  previous?.bind fun previous =>
    if previous = contribution.record then none
    else some ⟨.shadowedExport, contribution.file, "'" ++ contribution.name ++ "' from '"
      ++ contribution.record.segment ++ "' replaces the earlier export from '"
      ++ previous.segment ++ "'"⟩

/-- The record that a name has after some contributions to a map. -/
def current? (map : ExportMap) (earlier : List Contribution) (name : String) :
    Option ExportRecord :=
  (latest? earlier name).or (map.get? name)

/-- The findings about replaced records: each contribution is held against what its name leads to
after those before it. -/
def shadowings (map : ExportMap) (contributions : List Contribution) : List Diagnostic :=
  (contributions.inits.zip contributions).filterMap fun entry =>
    entry.2.shadowing? (current? map entry.1 entry.2.name)

theorem latest?_cons (first : Contribution) (rest : List Contribution) (name : String) :
    latest? (first :: rest) name
      = (latest? rest name).or (if first.name = name then some first.record else none) := by
  unfold latest?
  rw [List.reverse_cons, List.find?_append]
  cases rest.reverse.find? fun contribution => contribution.name = name with
  | some found => rfl
  | none => by_cases h : first.name = name <;> simp [h]

theorem current?_nil (map : ExportMap) (name : String) : current? map [] name = map.get? name := rfl

/-- What the first contribution changes is seen by the later ones as if it had been in the map. -/
theorem current?_cons (map : ExportMap) (first : Contribution) (rest : List Contribution)
    (name : String) :
    current? map (first :: rest) name
      = current? (map.insert first.name first.record) rest name := by
  rw [current?, current?, latest?_cons, ExportMap.get?_insert, Option.or_assoc]
  split <;> rfl

theorem shadowings_cons (map : ExportMap) (first : Contribution) (rest : List Contribution) :
    shadowings map (first :: rest)
      = (first.shadowing? (map.get? first.name)).toList
        ++ shadowings (map.insert first.name first.record) rest := by
  unfold shadowings
  rw [List.inits_cons, List.zip_cons_cons, List.zip_map_left, List.filterMap_cons,
    List.filterMap_map]
  simp only [Function.comp_def, Prod.map_fst, Prod.map_snd, id, current?_cons, current?_nil]
  cases first.shadowing? (map.get? first.name) with
  | none => rfl
  | some diagnostic => rfl

end Contribution

/-- What events contribute, in their order. -/
def Event.contributions (events : List Event) : List Contribution :=
  events.filterMap Event.contribution?

@[simp] theorem Event.contributions_nil : contributions [] = [] := rfl

theorem Event.contributions_cons (event : Event) (rest : List Event) :
    contributions (event :: rest) = event.contribution?.toList ++ contributions rest := by
  unfold contributions
  rw [List.filterMap_cons]
  cases event.contribution? <;> rfl

theorem Event.contributions_append (first second : List Event) :
    contributions (first ++ second) = contributions first ++ contributions second :=
  List.filterMap_append

/-! ## What one event changes -/

namespace Walk

open Contribution

variable (walk : Walk) (event : Event)

/-- An event puts what it contributes into the map. -/
theorem exports_apply_contribution? :
    (event.apply walk).exports
      = match event.contribution? with
        | some contribution => walk.exports.insert contribution.name contribution.record
        | none => walk.exports := by
  rw [exports_apply, Event.setting?_eq_contribution?]
  cases event.contribution? <;> rfl

/-- The finding of an event whose contribution replaces a record. -/
def replacing? : Option Diagnostic :=
  event.contribution?.bind fun contribution =>
    contribution.shadowing? (walk.exports.get? contribution.name)

/-- An event finds what it finds by itself, and that a record is replaced. -/
theorem diagnostics_apply_eq :
    (event.apply walk).diagnostics
      = walk.diagnostics ++ event.finding?.toList ++ (walk.replacing? event).toList := by
  cases event with
  | visit => simp [Event.apply, Event.finding?, replacing?, Event.contribution?]
  | report kind file message =>
    simp [Event.apply, Event.finding?, replacing?, Event.contribution?, report]
  | record place name origin =>
    simp only [Event.apply, Event.finding?, replacing?, Event.contribution?, record,
      Option.toList_none, List.append_nil]
    split
    · simp
    · simp only [reportShadowing, Option.bind_some, shadowing?]
      cases walk.exports.get? name with
      | none => simp
      | some previous => by_cases h : previous = place.entryOf name origin <;> simp [h, report]

end Walk

/-- The finding is about a replaced record. -/
def Diagnostic.isShadowing (diagnostic : Diagnostic) : Bool :=
  diagnostic.kind = .shadowedExport

/-- A finding about a contribution is about a replaced record. -/
theorem Contribution.isShadowing_of_shadowing? {contribution : Contribution}
    {previous? : Option ExportRecord} {diagnostic : Diagnostic}
    (h : contribution.shadowing? previous? = some diagnostic) :
    diagnostic.isShadowing = true := by
  obtain ⟨previous, -, hsome⟩ := Option.bind_eq_some_iff.mp h
  split at hsome
  · cases hsome
  · cases hsome
    rfl

/-! ## What many events change -/

namespace Walk

open Contribution

variable (walk : Walk) (events : List Event)

/-- A name has the record of its last contribution, or else the one it had. -/
theorem get?_replay (name : String) :
    (walk.replay events).exports.get? name
      = current? walk.exports (Event.contributions events) name := by
  induction events generalizing walk with
  | nil => rfl
  | cons event rest ih =>
    rw [replay_cons, ih, exports_apply_contribution?, Event.contributions_cons]
    cases event.contribution? with
    | none => rfl
    | some contribution =>
      exact (current?_cons walk.exports contribution (Event.contributions rest) name).symm

/-- A list without repetitions grows by an entry that is new. -/
theorem eraseDups_append_singleton (names : List String) (name : String) :
    (names ++ [name]).eraseDups
      = if name ∈ names then names.eraseDups else names.eraseDups ++ [name] := by
  rw [List.eraseDups_append]
  by_cases h : name ∈ names <;> simp [List.removeAll, List.eraseDups_cons, h]

/-- The names that were there come first, then the new ones in the order of their first
contributions. -/
theorem names_replay :
    (walk.replay events).exports.names
      = walk.exports.names
        ++ ((Event.contributions events).map (·.name)).eraseDups.filter
          (· ∉ walk.exports.names) := by
  -- from the last event on: a name is compared with all that come before it
  induction events using List.reverseRecOn with
  | nil => simp
  | append_singleton events event ih =>
    rw [replay_append, replay_cons, replay_nil, exports_apply_contribution?,
      Event.contributions_append, Event.contributions_cons, Event.contributions_nil]
    cases event.contribution? with
    | none => simpa using ih
    | some contribution =>
      simp only [Option.toList_some, List.append_nil, List.map_append, List.map_cons, List.map_nil,
        eraseDups_append_singleton, ExportMap.names_insert, ih]
      by_cases hold : contribution.name ∈ walk.exports.names
      · rw [if_pos (List.mem_append_left _ hold)]
        split <;> simp [hold]
      · by_cases hnew : contribution.name ∈ (Event.contributions events).map (·.name)
        · rw [if_pos hnew, if_pos]
          simpa [hold] using hnew
        · rw [if_neg hnew, if_neg]
          · simp [hold]
          · simpa [hold] using hnew

/-- The findings that are not about replaced records are those that the events make by
themselves. -/
theorem diagnostics_replay_others :
    (walk.replay events).diagnostics.filter (!·.isShadowing)
      = walk.diagnostics.filter (!·.isShadowing)
        ++ (events.filterMap Event.finding?).filter (!·.isShadowing) := by
  induction events generalizing walk with
  | nil => simp
  | cons event rest ih =>
    have hnone : (walk.replacing? event).toList.filter (!·.isShadowing) = [] := by
      cases hreplacing : walk.replacing? event with
      | none => rfl
      | some diagnostic =>
        obtain ⟨contribution, -, hsome⟩ := Option.bind_eq_some_iff.mp hreplacing
        simp [isShadowing_of_shadowing? hsome]
    rw [replay_cons, ih, diagnostics_apply_eq, List.filterMap_cons, List.filter_append, hnone]
    cases event.finding? with
    | none => simp
    | some diagnostic => by_cases h : diagnostic.isShadowing = true <;> simp [h]

/-- The findings about replaced records, if no event makes one by itself, are made at the
contributions. -/
theorem diagnostics_replay_shadowings
    (h : ∀ event ∈ events, ∀ diagnostic ∈ event.finding?, diagnostic.isShadowing = false) :
    (walk.replay events).diagnostics.filter (·.isShadowing)
      = walk.diagnostics.filter (·.isShadowing)
        ++ shadowings walk.exports (Event.contributions events) := by
  induction events generalizing walk with
  | nil => simp [Event.contributions, shadowings]
  | cons event rest ih =>
    have hfinding : event.finding?.toList.filter (·.isShadowing) = [] := by
      cases hsome : event.finding? with
      | none => rfl
      | some diagnostic => simp [h event List.mem_cons_self diagnostic hsome]
    rw [replay_cons, ih _ fun later hlater => h later (List.mem_cons_of_mem _ hlater),
      diagnostics_apply_eq, exports_apply_contribution?, Event.contributions_cons, replacing?,
      List.filter_append, List.filter_append, hfinding, List.append_nil]
    cases event.contribution? with
    | none => simp
    | some contribution =>
      simp only [Option.bind_some, Option.toList_some, List.singleton_append, shadowings_cons,
        List.append_assoc]
      cases hsome : contribution.shadowing? (walk.exports.get? contribution.name) with
      | none => rfl
      | some diagnostic => simp [isShadowing_of_shadowing? hsome]

end Walk

/-! ## Logs find nothing about replaced records -/

/-- No event of a log finds by itself that a record is replaced. -/
theorem Modules.not_isShadowing_of_log {modules : Modules} {depth : Nat} {chain : List Path}
    {path file : Path} {segment : String} {viaWildcard : Bool} {events : List Event}
    (h : modules.log depth chain path segment viaWildcard = .ok (file, events)) :
    ∀ event ∈ events, ∀ diagnostic ∈ event.finding?, diagnostic.isShadowing = false := by
  induction depth generalizing chain path segment viaWildcard file events with
  | zero => cases h
  | succ depth ih =>
    intro event hevent diagnostic hdiagnostic
    obtain ⟨-, ⟨-, rfl⟩ | ⟨-, surface, body, -, hbody, rfl⟩⟩ := log_cases h
    · rcases List.mem_cons.mp hevent with rfl | hreport
      · cases hdiagnostic
      · cases List.mem_singleton.mp hreport
        cases hdiagnostic
        rfl
    · rcases List.mem_cons.mp hevent with rfl | hin
      · cases hdiagnostic
      · obtain ⟨declaration, -, found, hfound, hmem⟩ := Place.exists_of_mem_eventsOf hbody hin
        rcases Place.events_cases hfound hmem with
          ⟨source, -, -, hdescend⟩ | ⟨kind, message, rfl, hkind⟩ | ⟨_, _, rfl, -⟩
        · obtain ⟨next, hnext⟩ := descend_eq_ok hdescend
          exact ih hnext event hmem diagnostic hdiagnostic
        · cases hdiagnostic
          have hne : kind ≠ .shadowedExport := by rintro rfl; cases hkind
          simpa [Diagnostic.isShadowing] using hne
        · cases hdiagnostic

/-! ## Merging -/

/-- What was collected before and what a walk from nothing collects make up, merged, what the walk
comes to: the walk's records win, the names that were there keep their places and new ones follow
in the walk's order, and the findings other than those about replaced records follow one another. -/
structure Walk.Merges (before isolated merged : Walk) : Prop where
  get?_eq : ∀ name, merged.exports.get? name
    = (isolated.exports.get? name).or (before.exports.get? name)
  names_eq : merged.exports.names
    = before.exports.names ++ isolated.exports.names.filter (· ∉ before.exports.names)
  others_eq : merged.diagnostics.filter (!·.isShadowing)
    = before.diagnostics.filter (!·.isShadowing) ++ isolated.diagnostics.filter (!·.isShadowing)

/-- Events from the beginning are merged into what was collected. -/
theorem Walk.merges_replay (walk : Walk) (events : List Event) :
    walk.Merges (empty.replay events) (walk.replay events) where
  get?_eq := by
    intro name
    rw [get?_replay, get?_replay, Contribution.current?, Contribution.current?]
    exact congrArg (Option.or · _) Option.or_none.symm
  names_eq := by
    rw [names_replay, names_replay]
    simp [empty, ExportMap.names]
  others_eq := by
    rw [diagnostics_replay_others, diagnostics_replay_others]
    simp [empty]

namespace FileSystem

/-- A walk with shared state is a walk from nothing, merged: it fails with the error of the latter
or not at all, and otherwise merges what the latter collects into what was there, where a replaced
record is found at exactly the contributions whose name led to another one. Hence a flattened barrel
leads each name to the record of its last contribution, with the names in the order of their
first. -/
theorem visit_merges (fs : FileSystem) (depth : Nat) (chain : List Path) (path : Path)
    (segment : String) (viaWildcard : Bool) (walk : Walk) :
    (∀ error, fs.modules.visit depth chain path segment viaWildcard walk = .error error
        ↔ fs.modules.visit depth chain path segment viaWildcard .empty = .error error)
      ∧ (∀ file isolated,
        fs.modules.visit depth chain path segment viaWildcard .empty = .ok (file, isolated) →
          ∃ merged events,
            fs.modules.visit depth chain path segment viaWildcard walk = .ok (file, merged)
            ∧ fs.modules.log depth chain path segment viaWildcard = .ok (file, events)
            ∧ walk.Merges isolated merged
            ∧ merged.diagnostics.filter (·.isShadowing)
              = walk.diagnostics.filter (·.isShadowing)
                ++ Contribution.shadowings walk.exports (Event.contributions events))
      ∧ (∀ barrel, fs.flatten path = .ok barrel →
          ∃ events, fs.modules.log (fs.depth + 1) [] barrel.directory "" false
              = .ok (barrel.rootFile, events)
            ∧ (∀ name, barrel.get? name
              = Contribution.latest? (Event.contributions events) name)
            ∧ barrel.exports.names = ((Event.contributions events).map (·.name)).eraseDups) := by
  refine ⟨fun error => ?_, fun file isolated hisolated => ?_, fun barrel hflatten => ?_⟩
  · rw [Modules.visit_eq_log, Modules.visit_eq_log]
    cases fs.modules.log depth chain path segment viaWildcard <;> simp [Except.map]
  · rw [Modules.visit_eq_log] at hisolated
    cases hlog : fs.modules.log depth chain path segment viaWildcard with
    | error error => rw [hlog] at hisolated; cases hisolated
    | ok logged =>
      rw [hlog] at hisolated
      cases hisolated
      refine ⟨walk.replay logged.2, logged.2, ?_, rfl, walk.merges_replay logged.2,
        walk.diagnostics_replay_shadowings logged.2 (Modules.not_isShadowing_of_log hlog)⟩
      rw [Modules.visit_eq_log, hlog]
      rfl
  · obtain ⟨-, events, hlog, hreplay⟩ := log_of_flatten hflatten
    have hget := Walk.get?_replay .empty events
    have hnames := Walk.names_replay .empty events
    rw [hreplay] at hget hnames
    refine ⟨events, hlog, fun name => (hget name).trans Option.or_none, hnames.trans ?_⟩
    simp [Walk.empty, ExportMap.names]

end FileSystem

namespace Fixture

/-- A barrel whose index file replaces a name of a file that it exports. -/
def overlap : Fixture :=
  ((Fixture.empty (some ⟨"/"⟩)).add
    ⟨"/b/index.ts"⟩ (.file "export * from './x'; export const A = 1;")).add
    ⟨"/b/x.ts"⟩ (.file "export const A = 2, B = 1;")

/-- A walk that has collected a name of the barrel and another one. -/
def overlapBefore : Walk :=
  ⟨[("B", ⟨"./old", none⟩), ("Z", ⟨"./old", none⟩)], []⟩

/-- The barrel as it is flattened by itself. -/
def overlapBarrel : Barrel :=
  ⟨⟨"/b"⟩, ⟨"/b/index.ts"⟩, [("A", ⟨"", none⟩), ("B", ⟨"./x", none⟩)],
    [⟨.shadowedExport, ⟨"/b/index.ts"⟩,
      "'A' from '' replaces the earlier export from './x'"⟩]⟩

end Fixture

theorem FileSystem.visit_merges_overlap :
    Fixture.overlap.view.modules.visit 3 [] ⟨"/b"⟩ "" false .empty
        = .ok (⟨"/b/index.ts"⟩, ⟨Fixture.overlapBarrel.exports, Fixture.overlapBarrel.diagnostics⟩)
      ∧ Fixture.overlap.view.flatten ⟨"/b"⟩ = .ok Fixture.overlapBarrel
      ∧ (∃ merged events,
        Fixture.overlap.view.modules.visit 3 [] ⟨"/b"⟩ "" false Fixture.overlapBefore
          = .ok (⟨"/b/index.ts"⟩, merged)
        ∧ merged.exports.names = ["B", "Z", "A"]
        ∧ merged.exports.get? "B" = some ⟨"./x", none⟩
        ∧ merged.diagnostics.filter (·.isShadowing)
          = Contribution.shadowings Fixture.overlapBefore.exports (Event.contributions events))
      ∧ ∃ events, Fixture.overlapBarrel.get? "A"
        = Contribution.latest? (Event.contributions events) "A" := by
  have hvisit : Fixture.overlap.view.modules.visit 3 [] ⟨"/b"⟩ "" false .empty
      = .ok (⟨"/b/index.ts"⟩,
        ⟨Fixture.overlapBarrel.exports, Fixture.overlapBarrel.diagnostics⟩) := by
    decide +kernel
  have hflatten : Fixture.overlap.view.flatten ⟨"/b"⟩ = .ok Fixture.overlapBarrel := by
    decide +kernel
  obtain ⟨-, hmerges, hbarrel⟩ := Fixture.overlap.view.visit_merges 3 [] ⟨"/b"⟩ "" false
    Fixture.overlapBefore
  obtain ⟨merged, events, hmerged, -, hmerge, hshadowings⟩ := hmerges _ _ hvisit
  obtain ⟨others, -, hlatest, -⟩ := hbarrel _ hflatten
  refine ⟨hvisit, hflatten, ⟨merged, events, hmerged, ?_, ?_, hshadowings⟩, others, hlatest "A"⟩
  · rw [hmerge.names_eq]
    decide
  · rw [hmerge.get?_eq]
    decide

end DirectImports
