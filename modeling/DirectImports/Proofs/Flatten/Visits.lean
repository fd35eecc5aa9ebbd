import DirectImports.Proofs.Flatten.Log
import DirectImports.Proofs.Lookup
import DirectImports.Proofs.Path.Segment

/-!
# The visits of a walk

Which visits a walk makes, said without the walk: the first one, and from each file that it goes
through those of the modules of its `export *` (`Modules.Visits`). Every event of a log belongs to
such a visit (`explains_of_log`), so what holds of the first visit and passes from one visit to
the next holds of the whole walk.
-/

namespace DirectImports

namespace Modules

variable {modules : Modules}

/-- The visits of a walk that begins at `start`. -/
inductive Visits (modules : Modules) (start : Path) : List Path → Path → String → Bool → Prop
  | first : Visits modules start [] start "" false
  | next {chain : List Path} {path file : Path} {segment source : String} {viaWildcard : Bool}
      {surface : Surface} (hvisit : Visits modules start chain path segment viaWildcard)
      (hlocate : modules.locate path = .ok file) (hoff : onChain chain file = false)
      (hsurface : modules.surface file = .ok surface)
      (hmem : .wildcard source ∈ surface.declarations) (hpath : Specifier.isPath source = true) :
      Visits modules start (file :: chain) (file.dir.joinDir source)
        (Specifier.join (Place.enter path segment viaWildcard file surface).baseSegment source) true

/-- A visit goes through the statements of a file and stands at `place` meanwhile. -/
def Enters (modules : Modules) (start : Path) (place : Place) (surface : Surface) : Prop :=
  ∃ chain path segment viaWildcard file, modules.Visits start chain path segment viaWildcard
    ∧ modules.locate path = .ok file ∧ onChain chain file = false
    ∧ modules.surface file = .ok surface
    ∧ place = Place.enter path segment viaWildcard file surface

/-- The event belongs to a visit of the walk. -/
def Explains (modules : Modules) (start : Path) : Event → Prop
  | .visit chain path segment viaWildcard => modules.Visits start chain path segment viaWildcard
  | .report .. => True
  | .record place name origin =>
    ∃ surface, modules.Enters start place surface ∧ (name, origin) ∈ surface.offers

/-- All that happens during a visit belongs to a visit. -/
theorem explains_of_log {start : Path} {depth : Nat} {chain : List Path} {path file : Path}
    {segment : String} {viaWildcard : Bool} {events : List Event}
    (hvisit : modules.Visits start chain path segment viaWildcard)
    (h : modules.log depth chain path segment viaWildcard = .ok (file, events)) :
    ∀ event ∈ events, modules.Explains start event := by
  induction depth generalizing chain path segment viaWildcard file events with
  | zero => cases h
  | succ depth ih =>
    intro event hevent
    obtain ⟨hlocate, ⟨-, rfl⟩ | ⟨hoff, surface, body, hsurface, hbody, rfl⟩⟩ := log_cases h
    · rcases List.mem_cons.mp hevent with rfl | hreport
      · exact hvisit
      · rw [List.mem_singleton.mp hreport]
        trivial
    · rcases List.mem_cons.mp hevent with rfl | hin
      · exact hvisit
      · obtain ⟨declaration, hdeclaration, found, hfound, hmem⟩ :=
          Place.exists_of_mem_eventsOf hbody hin
        rcases Place.events_cases hfound hmem with
          ⟨source, rfl, hispath, hdescend⟩ | ⟨_, _, rfl, -⟩ | ⟨name, origin, rfl, hoffer⟩
        · obtain ⟨target, hlog⟩ := descend_eq_ok hdescend
          exact ih (.next hvisit hlocate hoff hsurface hdeclaration hispath) hlog event hmem
        · trivial
        · exact ⟨surface, ⟨chain, path, segment, viaWildcard, file, hvisit, hlocate, hoff, hsurface,
            rfl⟩, List.mem_flatMap.mpr ⟨declaration, hdeclaration, hoffer⟩⟩

/-- A composed segment is what every visit but the first has. -/
theorem Visits.segment {start path : Path} {chain : List Path} {segment : String}
    {viaWildcard : Bool} (h : modules.Visits start chain path segment viaWildcard) :
    segment = "" ∨ Specifier.isPath segment = true := by
  cases h with
  | first => exact Or.inl rfl
  | next => exact Specifier.join_eq_empty_or_isPath _ _

end Modules

end DirectImports
