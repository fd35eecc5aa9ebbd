import DirectImports.Proofs.Flatten.Failure
import DirectImports.Proofs.Flatten.Merge

/-!
# Findings about cycles

A walk turns back where its chain comes to a file that it holds already, and says so. It keeps no
other memory of the files it went through, so it goes along every chain of the graph up to the point
where the chain closes. Hence it finds a cycle if and only if the files that the index file reaches
have one, and each finding names a file on a cycle (`cyclicReExport_iff_of_flatten`).

One direction follows the visit where the finding was made back along its chain
(`Visits.transGen_of_mem`). The other follows the edges of the graph: as long as nothing is found,
each of them leads the walk on with a longer chain (`report_or_descends`), until the cycle closes.
-/

namespace DirectImports

/-! ## Findings and events -/

/-- A finding that is not about a replaced record was there or is made by an event. -/
theorem Walk.mem_diagnostics_replay_iff (walk : Walk) (events : List Event)
    {diagnostic : Diagnostic} (h : diagnostic.isShadowing = false) :
    diagnostic ∈ (walk.replay events).diagnostics
      ↔ diagnostic ∈ walk.diagnostics
        ∨ .report diagnostic.kind diagnostic.path diagnostic.message ∈ events := by
  have hfilter := Walk.diagnostics_replay_others walk events
  have hmem : diagnostic ∈ (walk.replay events).diagnostics.filter (!·.isShadowing)
      ↔ diagnostic ∈ walk.diagnostics.filter (!·.isShadowing)
        ++ (events.filterMap Event.finding?).filter (!·.isShadowing) := by
    rw [hfilter]
  simp only [List.mem_filter, List.mem_append, List.mem_filterMap, h, Bool.not_false,
    and_true] at hmem
  rw [hmem]
  refine or_congr_right ⟨?_, fun hevent => ⟨_, hevent, rfl⟩⟩
  rintro ⟨event, hevent, hfinding⟩
  cases event with
  | visit => cases hfinding
  | record => cases hfinding
  | report => cases hfinding; exact hevent

namespace Modules

variable {modules : Modules} {start root : Path} {depth : Nat} {chain : List Path}
  {path file : Path} {segment : String} {viaWildcard : Bool} {events : List Event}

/-! ## From a finding to a cycle -/

/-- Chains of `export *` that `root` reaches come back to the file: one of them leads to it from a
file with the same components. -/
def OnCycle (modules : Modules) (root file : Path) : Prop :=
  ∃ first, modules.Reaches root first ∧ Relation.TransGen modules.Edge first file
    ∧ first.Same file

/-- Where files read the same whatever way leads to them, a file on a cycle reaches itself. -/
theorem onCycle_iff_transGen (hconsistent : modules.Consistent) (hroot : modules.IsLocated root) :
    modules.OnCycle root file
      ↔ modules.Reaches root file ∧ Relation.TransGen modules.Edge file file := by
  constructor
  · rintro ⟨first, hreach, htrans, hsame⟩
    have hfile : modules.Reaches root file := hreach.trans htrans.to_reflTransGen
    obtain ⟨next, hedge, hrest⟩ := Relation.TransGen.head'_iff.mp htrans
    have hback := hedge.of_same hconsistent (hreach.isLocated hroot) (hfile.isLocated hroot) hsame
    exact ⟨hfile, .head' hback hrest⟩
  · rintro ⟨hreach, htrans⟩
    exact ⟨file, hreach, htrans, rfl⟩

/-- Each file of a chain leads to the file that is visited. -/
theorem Visits.transGen_of_mem (h : modules.Visits start chain path segment viaWildcard)
    (hlocate : modules.locate path = .ok file) {entry : Path} (hmem : entry ∈ chain) :
    Relation.TransGen modules.Edge entry file := by
  induction h generalizing file with
  | first => cases hmem
  | next _ hprevious _ hsurface hdeclaration hpath ih =>
    have hedge : modules.Edge _ file := ⟨_, _, hsurface, hdeclaration, hpath, hlocate⟩
    rcases List.mem_cons.mp hmem with rfl | hin
    · exact .single hedge
    · exact (ih hprevious hin).tail hedge

/-- A visit that comes back to its chain comes to a file on a cycle. -/
theorem Visits.onCycle (hroot : modules.locate start = .ok root)
    (h : modules.Visits start chain path segment viaWildcard)
    (hlocate : modules.locate path = .ok file) (hon : onChain chain file = true) :
    modules.OnCycle root file := by
  obtain ⟨entry, hmem, hsame⟩ := List.any_eq_true.mp hon
  have hreach := h.reaches_of_mem hroot hmem
  exact ⟨entry, hreach, h.transGen_of_mem hlocate hmem, of_decide_eq_true hsame⟩

/-- A finding about a cycle is made where a visit comes back to its chain. -/
theorem exists_visit_of_cyclicReExport
    (hvisit : modules.Visits start chain path segment viaWildcard)
    (h : modules.log depth chain path segment viaWildcard = .ok (file, events)) {found : Path}
    {message : String} (hmem : .report .cyclicReExport found message ∈ events) :
    message = cycleText found ∧ ∃ chain path segment viaWildcard,
      modules.Visits start chain path segment viaWildcard ∧ modules.locate path = .ok found
        ∧ onChain chain found = true := by
  induction depth generalizing chain path segment viaWildcard file events with
  | zero => cases h
  | succ depth ih =>
    obtain ⟨hlocate, ⟨hon, rfl⟩ | ⟨hoff, surface, body, hsurface, hbody, rfl⟩⟩ := log_cases h
    · rcases List.mem_cons.mp hmem with hvisited | hreport
      · cases hvisited
      · cases List.mem_singleton.mp hreport
        exact ⟨rfl, chain, path, segment, viaWildcard, hvisit, hlocate, hon⟩
    · rcases List.mem_cons.mp hmem with hvisited | hin
      · cases hvisited
      · obtain ⟨declaration, hdeclaration, own, hown, hmemOwn⟩ :=
          Place.exists_of_mem_eventsOf hbody hin
        rcases Place.events_cases hown hmemOwn with
          ⟨source, rfl, hispath, hdescend⟩ | ⟨_, _, heq, hkind⟩ | ⟨_, _, heq, -⟩
        · obtain ⟨next, hlog⟩ := descend_eq_ok hdescend
          exact ih (.next hvisit hlocate hoff hsurface hdeclaration hispath) hlog hmemOwn
        · -- what a statement finds by itself is about no cycle
          cases heq
          cases hkind
        · cases heq

/-! ## From a cycle to a finding -/

/-- Something is found about a cycle. -/
def FindsCycle (events : List Event) : Prop :=
  ∃ file, .report .cyclicReExport file (cycleText file) ∈ events

theorem FindsCycle.mono {more : List Event} (h : FindsCycle events) (hsub : events ⊆ more) :
    FindsCycle more := by
  obtain ⟨file, hmem⟩ := h
  exact ⟨file, hsub hmem⟩

/-- A visit finds a cycle at once, or holds its file from then on along each of the file's edges. -/
theorem report_or_descends
    (h : modules.log depth chain path segment viaWildcard = .ok (file, events)) :
    FindsCycle events
      ∨ (onChain chain file = false ∧ ∀ next, modules.Edge file next →
          ∃ depth target segment found,
            modules.log depth (file :: chain) target segment true = .ok (next, found)
              ∧ found ⊆ events) := by
  cases depth with
  | zero => cases h
  | succ depth =>
    obtain ⟨-, ⟨-, rfl⟩ | ⟨hoff, -⟩⟩ := log_cases h
    · exact Or.inl ⟨file, by simp⟩
    · refine Or.inr ⟨hoff, fun next hedge => ?_⟩
      obtain ⟨target, targetSegment, found, -, hlog, hsub⟩ := exists_log_of_edge h hoff hedge
      exact ⟨depth, target, targetSegment, found, hlog, hsub⟩

/-- A file that leads back to the chain leads to a finding. -/
theorem findsCycle_of_reaches_chain
    (h : modules.log depth chain path segment viaWildcard = .ok (file, events)) {last : Path}
    (hreach : modules.Reaches file last) (hon : onChain chain last = true) :
    FindsCycle events := by
  -- the chain grows along the way and keeps holding the last file
  induction hreach using Relation.ReflTransGen.head_induction_on
    generalizing depth chain path segment viaWildcard events with
  | refl =>
    rcases report_or_descends h with hfinds | ⟨hoff, -⟩
    · exact hfinds
    · rw [hon] at hoff; cases hoff
  | head hedge _ ih =>
    rcases report_or_descends h with hfinds | ⟨-, hdescends⟩
    · exact hfinds
    · obtain ⟨depth, target, segment, found, hlog, hsub⟩ := hdescends _ hedge
      have hfound : FindsCycle found := ih hlog (by rw [onChain_cons, hon, Bool.or_true])
      exact hfound.mono hsub

/-- A file that leads to a cycle leads to a finding. -/
theorem findsCycle_of_onCycle
    (h : modules.log depth chain path segment viaWildcard = .ok (file, events)) {last : Path}
    (hcycle : modules.OnCycle file last) : FindsCycle events := by
  obtain ⟨first, hreach, htrans, hsame⟩ := hcycle
  induction hreach using Relation.ReflTransGen.head_induction_on
    generalizing depth chain path segment viaWildcard events with
  | refl =>
    -- the walk is at the cycle, and comes back to this file if to none before
    obtain ⟨next, hedge, hrest⟩ := Relation.TransGen.head'_iff.mp htrans
    rcases report_or_descends h with hfinds | ⟨-, hdescends⟩
    · exact hfinds
    · obtain ⟨depth, target, segment, found, hlog, hsub⟩ := hdescends _ hedge
      have hon : onChain (first :: chain) last = true := by
        rw [onChain_cons, decide_eq_true hsame, Bool.true_or]
      exact (findsCycle_of_reaches_chain hlog hrest hon).mono hsub
  | head hedge _ ih =>
    rcases report_or_descends h with hfinds | ⟨-, hdescends⟩
    · exact hfinds
    · obtain ⟨depth, target, segment, found, hlog, hsub⟩ := hdescends _ hedge
      exact (ih hlog).mono hsub

end Modules

/-! ## Barrels -/

namespace FileSystem

/-- Flattening a barrel finds a cycle if and only if the files that its index file reaches by
`export *` have one, and every such finding names a file on a cycle. In a consistent file system
that file leads back to itself. -/
theorem cyclicReExport_iff_of_flatten {fs : FileSystem} {path : Path} {barrel : Barrel}
    (h : fs.flatten path = .ok barrel) :
    ((∃ diagnostic ∈ barrel.diagnostics, diagnostic.kind = .cyclicReExport)
        ↔ ∃ file, fs.modules.OnCycle barrel.rootFile file)
      ∧ (∀ diagnostic ∈ barrel.diagnostics, diagnostic.kind = .cyclicReExport →
          fs.modules.OnCycle barrel.rootFile diagnostic.path
            ∧ diagnostic.message = cycleText diagnostic.path)
      ∧ (fs.modules.Consistent → ∀ file, fs.modules.OnCycle barrel.rootFile file
          ↔ fs.modules.Reaches barrel.rootFile file
            ∧ Relation.TransGen fs.modules.Edge file file) := by
  obtain ⟨hdirectory, events, hlog, hreplay⟩ := log_of_flatten h
  have hroot := (Modules.log_cases hlog).1
  have hmem {diagnostic : Diagnostic} (hkind : diagnostic.kind = .cyclicReExport) :
      diagnostic ∈ barrel.diagnostics
        ↔ .report .cyclicReExport diagnostic.path diagnostic.message ∈ events := by
    have hshadowing : diagnostic.isShadowing = false := by simp [Diagnostic.isShadowing, hkind]
    have hiff := Walk.mem_diagnostics_replay_iff .empty events hshadowing
    rw [hreplay, hkind] at hiff
    simpa [Walk.empty] using hiff
  have hnames : ∀ diagnostic ∈ barrel.diagnostics, diagnostic.kind = .cyclicReExport →
      fs.modules.OnCycle barrel.rootFile diagnostic.path
        ∧ diagnostic.message = cycleText diagnostic.path := by
    intro diagnostic hdiagnostic hkind
    obtain ⟨hmessage, chain, way, segment, viaWildcard, hvisit, hlocate, hon⟩ :=
      Modules.exists_visit_of_cyclicReExport .first hlog ((hmem hkind).mp hdiagnostic)
    exact ⟨hvisit.onCycle hroot hlocate hon, hmessage⟩
  refine ⟨⟨?_, ?_⟩, hnames, fun hconsistent file => ?_⟩
  · rintro ⟨diagnostic, hdiagnostic, hkind⟩
    exact ⟨diagnostic.path, (hnames diagnostic hdiagnostic hkind).1⟩
  · rintro ⟨file, hcycle⟩
    obtain ⟨found, hreport⟩ := Modules.findsCycle_of_onCycle hlog hcycle
    exact ⟨⟨.cyclicReExport, found, cycleText found⟩, (hmem rfl).mpr hreport, rfl⟩
  · exact Modules.onCycle_iff_transGen hconsistent ⟨_, clean_of_absolute hdirectory, hroot⟩

end FileSystem

namespace Fixture

/-- A barrel that reaches a file in two ways. -/
def diamond : Fixture :=
  ((((Fixture.empty (some ⟨"/"⟩)).add
    ⟨"/b/index.ts"⟩ (.file "export * from './x'; export * from './y';")).add
    ⟨"/b/x.ts"⟩ (.file "export * from './z';")).add
    ⟨"/b/y.ts"⟩ (.file "export * from './z';")).add
    ⟨"/b/z.ts"⟩ (.file "export const Z = 1;")

/-- The same barrel, but the file that is reached in two ways exports all of the directory. -/
def closedDiamond : Fixture :=
  diamond.add ⟨"/b/z.ts"⟩ (.file "export * from '.'; export const Z = 1;")

/-- What the two ways find. -/
def diamondBarrel (diagnostics : List Diagnostic) : Barrel :=
  ⟨⟨"/b"⟩, ⟨"/b/index.ts"⟩, [("Z", ⟨"./z", none⟩)], diagnostics⟩

/-- The finding about the closed diamond's index file, which is made on each way. -/
def diamondFinding : Diagnostic :=
  ⟨.cyclicReExport, ⟨"/b/index.ts"⟩, cycleText ⟨"/b/index.ts"⟩⟩

end Fixture

theorem FileSystem.cyclicReExport_iff_diamond :
    (Fixture.diamond.view.flatten ⟨"/b"⟩ = .ok (Fixture.diamondBarrel [])
        ∧ ∀ file, ¬Fixture.diamond.view.modules.OnCycle ⟨"/b/index.ts"⟩ file)
      ∧ Fixture.closedDiamond.view.flatten ⟨"/b"⟩
          = .ok (Fixture.diamondBarrel [Fixture.diamondFinding, Fixture.diamondFinding])
        ∧ Fixture.closedDiamond.view.modules.OnCycle ⟨"/b/index.ts"⟩ ⟨"/b/index.ts"⟩ := by
  have hopen : Fixture.diamond.view.flatten ⟨"/b"⟩ = .ok (Fixture.diamondBarrel []) := by
    decide +kernel
  have hclosed : Fixture.closedDiamond.view.flatten ⟨"/b"⟩
      = .ok (Fixture.diamondBarrel [Fixture.diamondFinding, Fixture.diamondFinding]) := by
    decide +kernel
  refine ⟨⟨hopen, fun file hcycle => ?_⟩, hclosed, ?_⟩
  · obtain ⟨diagnostic, hmem, -⟩ :=
      (FileSystem.cyclicReExport_iff_of_flatten hopen).1.mpr ⟨file, hcycle⟩
    cases hmem
  · have hmem : Fixture.diamondFinding
        ∈ (Fixture.diamondBarrel [Fixture.diamondFinding, Fixture.diamondFinding]).diagnostics :=
      List.mem_cons_self
    exact ((FileSystem.cyclicReExport_iff_of_flatten hclosed).2.1 _ hmem rfl).1

end DirectImports
