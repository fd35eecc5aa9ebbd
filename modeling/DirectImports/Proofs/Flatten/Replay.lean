import DirectImports.Proofs.Flatten.Log

/-!
# What a replay collects

The map and the findings after a list of events, in terms of the events. A name is in the map if
and only if some event sets it (`mem_names_replay`), and as long as no finding says that one record
replaced another, every event that sets a name set it to the record it has in the end
(`get?_replay_of_not_shadowed`).
-/

namespace DirectImports

/-- The entry that an event sets: no `default` that comes through an `export *`. -/
def Event.setting? : Event → Option (String × ExportRecord)
  | .record place name origin =>
    if place.viaWildcard && name == Walk.defaultName then none
    else some (name, place.entryOf name origin)
  | _ => none

theorem Event.setting?_record {place : Place} {name : String}
    (h : (place.viaWildcard && name == Walk.defaultName) = false) (origin : Origin) :
    (Event.record place name origin).setting? = some (name, place.entryOf name origin) := by
  rw [setting?, h]
  rfl

/-- Only a record sets an entry. -/
theorem Event.setting?_eq_some {event : Event} {name : String} {entry : ExportRecord}
    (h : event.setting? = some (name, entry)) :
    ∃ place origin, event = .record place name origin
      ∧ (place.viaWildcard && name == Walk.defaultName) = false
      ∧ entry = place.entryOf name origin := by
  cases event with
  | visit => cases h
  | report => cases h
  | record place key origin =>
    simp only [setting?] at h
    split at h
    · cases h
    · next hnot =>
      cases h
      exact ⟨place, origin, rfl, by simpa using hnot, rfl⟩

namespace Walk

/-! ## Findings -/

theorem diagnostics_report (walk : Walk) (kind : DiagnosticKind) (file : Path) (message : String) :
    (walk.report kind file message).diagnostics = walk.diagnostics ++ [⟨kind, file, message⟩] := rfl

/-- Recording adds at most findings about a replaced record. -/
theorem diagnostics_record (walk : Walk) (file : Path) (viaWildcard : Bool) (name : String)
    (entry : ExportRecord) :
    (walk.record file viaWildcard name entry).diagnostics = walk.diagnostics
      ∨ ∃ message, (walk.record file viaWildcard name entry).diagnostics
          = walk.diagnostics ++ [⟨.shadowedExport, file, message⟩] := by
  unfold record
  split
  · exact Or.inl rfl
  · simp only
    unfold reportShadowing
    split
    · split
      · exact Or.inl rfl
      · exact Or.inr ⟨_, rfl⟩
    · exact Or.inl rfl

/-- No event takes a finding back. -/
theorem diagnostics_subset_apply (walk : Walk) (event : Event) :
    walk.diagnostics ⊆ (event.apply walk).diagnostics := by
  cases event with
  | visit => exact List.Subset.refl _
  | report kind file message => exact List.subset_append_left _ _
  | record place name origin =>
    rcases diagnostics_record walk place.file place.viaWildcard name (place.entryOf name origin)
      with h | ⟨message, h⟩
    · rw [Event.apply, h]
      exact List.Subset.refl _
    · rw [Event.apply, h]
      exact List.subset_append_left _ _

theorem diagnostics_subset_replay (walk : Walk) (events : List Event) :
    walk.diagnostics ⊆ (walk.replay events).diagnostics := by
  induction events generalizing walk with
  | nil => exact List.Subset.refl _
  | cons event rest ih => exact List.Subset.trans (diagnostics_subset_apply walk event) (ih _)

/-- Whatever is found is among the findings in the end. -/
theorem mem_diagnostics_replay {events : List Event} {kind : DiagnosticKind} {file : Path}
    {message : String} (h : .report kind file message ∈ events) (walk : Walk) :
    ⟨kind, file, message⟩ ∈ (walk.replay events).diagnostics := by
  induction events generalizing walk with
  | nil => cases h
  | cons event rest ih =>
    rcases List.mem_cons.mp h with rfl | hmem
    · refine diagnostics_subset_replay _ rest ?_
      rw [Event.apply, diagnostics_report]
      simp
    · exact ih hmem _

/-! ## The map -/

theorem exports_reportShadowing (walk : Walk) (file : Path) (name : String) (entry : ExportRecord) :
    (walk.reportShadowing file name entry).exports = walk.exports := by
  unfold reportShadowing
  split
  · split <;> rfl
  · rfl

/-- An event sets its entry and leaves the other names alone. -/
theorem exports_apply (walk : Walk) (event : Event) :
    (event.apply walk).exports
      = match event.setting? with
        | some (name, entry) => walk.exports.insert name entry
        | none => walk.exports := by
  cases event with
  | visit => rfl
  | report => rfl
  | record place name origin =>
    simp only [Event.apply, Event.setting?, record]
    split
    · rfl
    · simp only [exports_reportShadowing]

theorem mem_names_insert {map : ExportMap} {name other : String} {entry : ExportRecord} :
    other ∈ (map.insert name entry).names ↔ other = name ∨ other ∈ map.names := by
  rw [ExportMap.names_insert]
  split
  · next hmem =>
    refine ⟨Or.inr, ?_⟩
    rintro (rfl | h)
    · exact hmem
    · exact h
  · rw [List.mem_append, List.mem_singleton]
    exact Or.comm

/-- A name is in the map if it was there or some event sets it. -/
theorem mem_names_replay (walk : Walk) (events : List Event) (name : String) :
    name ∈ (walk.replay events).exports.names
      ↔ name ∈ walk.exports.names
        ∨ ∃ event ∈ events, ∃ entry, event.setting? = some (name, entry) := by
  induction events generalizing walk with
  | nil => simp
  | cons event rest ih =>
    rw [replay_cons, ih, exports_apply]
    cases hentry : event.setting? with
    | none =>
      simp only
      constructor
      · rintro (h | ⟨later, hlater, entry, hset⟩)
        · exact Or.inl h
        · exact Or.inr ⟨later, by simp [hlater], entry, hset⟩
      · rintro (h | ⟨later, hlater, entry, hset⟩)
        · exact Or.inl h
        · rcases List.mem_cons.mp hlater with rfl | hmem
          · rw [hentry] at hset; cases hset
          · exact Or.inr ⟨later, hmem, entry, hset⟩
    | some pair =>
      obtain ⟨key, set⟩ := pair
      simp only
      rw [mem_names_insert]
      constructor
      · rintro ((rfl | h) | ⟨later, hlater, entry, hset⟩)
        · exact Or.inr ⟨event, by simp, set, hentry⟩
        · exact Or.inl h
        · exact Or.inr ⟨later, by simp [hlater], entry, hset⟩
      · rintro (h | ⟨later, hlater, entry, hset⟩)
        · exact Or.inl (Or.inr h)
        · rcases List.mem_cons.mp hlater with rfl | hmem
          · rw [hentry] at hset
            cases hset
            exact Or.inl (Or.inl rfl)
          · exact Or.inr ⟨later, hmem, entry, hset⟩

/-! ## Without replaced records -/

/-- No finding says that a record was replaced. -/
def NotShadowed (walk : Walk) : Prop :=
  ∀ diagnostic ∈ walk.diagnostics, diagnostic.kind ≠ .shadowedExport

theorem NotShadowed.of_replay {walk : Walk} {events : List Event}
    (h : (walk.replay events).NotShadowed) : walk.NotShadowed :=
  fun diagnostic hmem => h diagnostic (diagnostics_subset_replay walk events hmem)

/-- An event that sets a name without a finding finds it unset or set to the same record. -/
theorem get?_of_apply_notShadowed {walk : Walk} {event : Event} (h : (event.apply walk).NotShadowed)
    {name : String} {entry old : ExportRecord} (hentry : event.setting? = some (name, entry))
    (hold : walk.exports.get? name = some old) : old = entry := by
  obtain ⟨place, origin, rfl, hnot, rfl⟩ := Event.setting?_eq_some hentry
  refine Classical.byContradiction fun hne => ?_
  simp only [Event.apply, record, hnot, reportShadowing, hold, if_neg hne] at h
  exact h _ (List.mem_append_right _ (List.mem_singleton.mpr rfl)) rfl

/-- A record stays as long as nothing is replaced. -/
theorem get?_replay_of_get? {walk : Walk} {events : List Event}
    (h : (walk.replay events).NotShadowed) {name : String} {entry : ExportRecord}
    (hget : walk.exports.get? name = some entry) :
    (walk.replay events).exports.get? name = some entry := by
  induction events generalizing walk with
  | nil => exact hget
  | cons event rest ih =>
    refine ih h ?_
    rw [exports_apply]
    cases hset : event.setting? with
    | none => exact hget
    | some pair =>
      obtain ⟨key, set⟩ := pair
      simp only
      rw [ExportMap.get?_insert]
      split
      · next hkey =>
        subst hkey
        rw [get?_of_apply_notShadowed (NotShadowed.of_replay h) hset hget]
      · exact hget

/-- If nothing is replaced, every event set its name to the record that the name has. -/
theorem get?_replay_of_not_shadowed {walk : Walk} {events : List Event}
    (h : (walk.replay events).NotShadowed) {event : Event} (hevent : event ∈ events)
    {name : String} {entry : ExportRecord} (hentry : event.setting? = some (name, entry)) :
    (walk.replay events).exports.get? name = some entry := by
  induction events generalizing walk with
  | nil => cases hevent
  | cons first rest ih =>
    rcases List.mem_cons.mp hevent with rfl | hmem
    · rw [replay_cons] at h ⊢
      refine get?_replay_of_get? h ?_
      rw [exports_apply, hentry]
      simp [ExportMap.get?_insert]
    · exact ih h hmem

/-! ## Entries of a map -/

/-- The names of a map that grew event by event are different. -/
theorem nodup_names_replay {walk : Walk} (h : walk.exports.names.Nodup) (events : List Event) :
    (walk.replay events).exports.names.Nodup := by
  induction events generalizing walk with
  | nil => exact h
  | cons event rest ih =>
    refine ih ?_
    rw [exports_apply]
    split
    · next name entry _ =>
      rw [ExportMap.names_insert]
      split
      · exact h
      · next hnot =>
        refine List.nodup_append.mpr ⟨h, by simp, ?_⟩
        intro other hother key hkey heq
        rw [heq, List.mem_singleton.mp hkey] at hother
        exact hnot hother
    · exact h

end Walk

/-- An entry of a map with different names is what its name leads to. -/
theorem ExportMap.get?_of_mem {map : ExportMap} (h : map.names.Nodup) {name : String}
    {entry : ExportRecord} (hmem : (name, entry) ∈ map) : map.get? name = some entry := by
  induction map with
  | nil => cases hmem
  | cons first rest ih =>
    obtain ⟨key, old⟩ := first
    rw [names_cons, List.nodup_cons] at h
    rcases List.mem_cons.mp hmem with heq | hin
    · cases heq
      simp [get?]
    · have hne : key ≠ name := by
        rintro rfl
        exact h.1 (List.mem_map_of_mem (f := (·.1)) hin)
      rw [get?, if_neg hne]
      exact ih h.2 hin

end DirectImports
