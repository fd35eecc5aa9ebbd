import DirectImports.Proofs.Flatten.Depth
import DirectImports.Proofs.Flatten.Ending

/-!
# When a barrel cannot be flattened

A walk ends with the first error that it meets. It meets one only where it looks: at the barrel's
directory, at the files that the index file reaches by `export *`, and at the modules of their
`export *` (`FileSystem.Breaks`). What is exported by name, as a namespace or from a package is
never looked up.

A visit that fails passes on the error of a later visit or has one of its own (`log_eq_error`).
So an error can be followed to the visit where it arose (`exists_visit_of_log_eq_error`), unless
the walk was cut off there. That does not happen if the depth is as large as the number of modules
that are reached (`flattensTo_of_reachesAtMost`). In the other direction a walk that succeeds goes
through every file that is reached, up to how its path is written, so these are finitely many
(`Modules.reachesAtMost_of_log`) and all of them are intact (`isIntact_of_log`).

Intact files alone are not enough: from a file at the root itself paths may lead further and further
up, where every one of them is another module (`FileSystem.not_flattensTo_rootLoop`).
-/

namespace DirectImports

/-! ## One visit -/

namespace Place

variable {place : Place} {descend : Path → String → Except BarrelError (List Event)}
  {error : BarrelError}

/-- Of all statements only an `export *` with a path fails, and only if its module does. -/
theorem events_eq_error {declaration : Declaration}
    (h : place.events descend declaration = .error error) :
    ∃ source, declaration = .wildcard source ∧ Specifier.isPath source = true
      ∧ descend (place.baseDir.joinDir source) (Specifier.join place.baseSegment source)
          = .error error := by
  cases declaration with
  | wildcard source =>
    change (if Specifier.isPath source then _ else _) = _ at h
    split at h
    · next hpath => exact ⟨source, rfl, hpath, h⟩
    · cases h
  | star source exported => cases h
  | named source specifiers => cases source <;> cases h
  | declared names nameless => cases h
  | default => cases h
  | other => cases h

/-- Statements fail with one of them. -/
theorem eventsOf_eq_error {declarations : List Declaration}
    (h : place.eventsOf descend declarations = .error error) :
    ∃ source, .wildcard source ∈ declarations ∧ Specifier.isPath source = true
      ∧ descend (place.baseDir.joinDir source) (Specifier.join place.baseSegment source)
          = .error error := by
  induction declarations with
  | nil => cases h
  | cons declaration rest ih =>
    cases hfirst : place.events descend declaration with
    | error first =>
      unfold eventsOf at h
      rw [hfirst] at h
      cases h
      obtain ⟨source, rfl, hpath, hdescend⟩ := events_eq_error hfirst
      exact ⟨source, List.mem_cons_self, hpath, hdescend⟩
    | ok first =>
      cases hrest : place.eventsOf descend rest with
      | error found =>
        unfold eventsOf at h
        rw [hfirst, hrest] at h
        cases h
        obtain ⟨source, hmem, hpath, hdescend⟩ := ih hrest
        exact ⟨source, List.mem_cons_of_mem _ hmem, hpath, hdescend⟩
      | ok others =>
        rw [eventsOf_cons_of_ok hfirst hrest] at h
        cases h

end Place

namespace Modules

variable {modules : Modules} {error : BarrelError} {start root : Path}

theorem descend_eq_error {depth : Nat} {chain : List Path} {target : Path} {segment : String}
    (h : modules.descend depth chain target segment = .error error) :
    modules.log depth chain target segment true = .error error := by
  unfold descend at h
  cases hlog : modules.log depth chain target segment true with
  | error found => rw [hlog] at h; cases h; rfl
  | ok logged => rw [hlog] at h; cases h

/-- How one visit fails: its path leads nowhere, its file is no module, or a visit that follows
fails. A file of the chain is not read again. -/
theorem log_eq_error {depth : Nat} {chain : List Path} {path : Path} {segment : String}
    {viaWildcard : Bool}
    (h : modules.log (depth + 1) chain path segment viaWildcard = .error error) :
    modules.locate path = .error error
      ∨ ∃ file, modules.locate path = .ok file ∧ onChain chain file = false
        ∧ (modules.surface file = .error error
          ∨ ∃ surface source, modules.surface file = .ok surface
            ∧ .wildcard source ∈ surface.declarations ∧ Specifier.isPath source = true
            ∧ modules.log depth (file :: chain) (file.dir.joinDir source)
                (Specifier.join
                  (Place.enter path segment viaWildcard file surface).baseSegment source) true
              = .error error) := by
  cases hlocate : modules.locate path with
  | error found =>
    unfold log at h
    rw [hlocate] at h
    cases h
    exact Or.inl rfl
  | ok file =>
    refine Or.inr ⟨file, rfl, ?_⟩
    cases hon : onChain chain file with
    | true =>
      rw [log_of_onChain hlocate hon] at h
      cases h
    | false =>
      refine ⟨rfl, ?_⟩
      cases hsurface : modules.surface file with
      | error found =>
        unfold log at h
        rw [hlocate] at h
        change (if onChain chain file then _ else _) = _ at h
        rw [if_neg (by simp [hon]), hsurface] at h
        cases h
        exact Or.inl rfl
      | ok surface =>
        rw [log_of_not_onChain hlocate hon hsurface] at h
        cases hbody : (Place.enter path segment viaWildcard file surface).eventsOf
            (modules.descend depth (file :: chain)) surface.declarations with
        | ok body => rw [hbody] at h; cases h
        | error found =>
          rw [hbody] at h
          cases h
          obtain ⟨source, hmem, hpath, hdescend⟩ := Place.eventsOf_eq_error hbody
          exact Or.inr ⟨surface, source, rfl, hmem, hpath, descend_eq_error hdescend⟩

/-- A visit whose path leads nowhere fails with that. -/
theorem log_of_locate_eq_error {path : Path} (h : modules.locate path = .error error) (depth : Nat)
    (chain : List Path) (segment : String) (viaWildcard : Bool) :
    modules.log (depth + 1) chain path segment viaWildcard = .error error := by
  unfold log
  rw [h]
  rfl

/-! ## A whole walk -/

/-- The files of a chain differ. -/
theorem Visits.pairwise {chain : List Path} {path : Path} {segment : String} {viaWildcard : Bool}
    (h : modules.Visits start chain path segment viaWildcard) :
    chain.Pairwise fun file other => ¬file.Same other := by
  induction h with
  | first => exact List.Pairwise.nil
  | next _ _ hoff _ _ _ ih =>
    refine List.Pairwise.cons (fun other hother hsame => ?_) ih
    have hnot := List.any_eq_false.mp hoff other hother
    exact hnot (decide_eq_true hsame.symm)

/-- The files of a chain are modules. -/
theorem Visits.exists_surface_of_mem {chain : List Path} {path file : Path} {segment : String}
    {viaWildcard : Bool} (h : modules.Visits start chain path segment viaWildcard)
    (hmem : file ∈ chain) : ∃ surface, modules.surface file = .ok surface := by
  induction h with
  | first => cases hmem
  | next _ _ _ hsurface _ _ ih =>
    rcases List.mem_cons.mp hmem with rfl | hin
    · exact ⟨_, hsurface⟩
    · exact ih hin

/-- The index file reaches the files of a chain. -/
theorem Visits.reaches_of_mem (hroot : modules.locate start = .ok root) {chain : List Path}
    {path file : Path} {segment : String} {viaWildcard : Bool}
    (h : modules.Visits start chain path segment viaWildcard) (hmem : file ∈ chain) :
    modules.Reaches root file := by
  induction h with
  | first => cases hmem
  | next hvisit hlocate _ _ _ _ ih =>
    rcases List.mem_cons.mp hmem with rfl | hin
    · exact (hvisit.reaches hroot hlocate).1
    · exact ih hin

/-- A chain holds no more files than modules are reached. -/
theorem Visits.length_le {count : Nat} (hroot : modules.locate start = .ok root)
    (hcount : modules.ReachesAtMost root count) {chain : List Path} {path : Path} {segment : String}
    {viaWildcard : Bool} (h : modules.Visits start chain path segment viaWildcard) :
    chain.length ≤ count :=
  hcount chain h.pairwise fun _ hmem => ⟨h.reaches_of_mem hroot hmem, h.exists_surface_of_mem hmem⟩

/-- An error arises at some visit: its path leads nowhere, its file is no module, or the walk was
cut off there, with as many files on the chain as the depth allows. -/
theorem exists_visit_of_log_eq_error {depth : Nat} {chain : List Path} {path : Path}
    {segment : String} {viaWildcard : Bool}
    (hvisit : modules.Visits start chain path segment viaWildcard)
    (h : modules.log depth chain path segment viaWildcard = .error error) :
    ∃ below way segment viaWildcard, modules.Visits start below way segment viaWildcard
      ∧ ((modules.locate way = .error error
          ∨ ∃ file, modules.locate way = .ok file ∧ modules.surface file = .error error)
        ∨ error = .tooDeep way ∧ below.length = depth + chain.length) := by
  induction depth generalizing chain path segment viaWildcard with
  | zero =>
    cases h
    exact ⟨chain, path, segment, viaWildcard, hvisit, Or.inr ⟨rfl, by omega⟩⟩
  | succ depth ih =>
    rcases log_eq_error h with hlost | ⟨file, hlocate, hoff, hbroken | ⟨surface, source, hsurface,
      hmem, hpath, hlog⟩⟩
    · exact ⟨chain, path, segment, viaWildcard, hvisit, Or.inl (Or.inl hlost)⟩
    · exact ⟨chain, path, segment, viaWildcard, hvisit, Or.inl (Or.inr ⟨file, hlocate, hbroken⟩)⟩
    · obtain ⟨below, way, last, via, hlast, harose⟩ :=
        ih (.next hvisit hlocate hoff hsurface hmem hpath) hlog
      refine ⟨below, way, last, via, hlast, harose.imp_right fun hdeep => ?_⟩
      rw [List.length_cons] at hdeep
      exact ⟨hdeep.1, by omega⟩

/-- The modules of the `export *` of a file that is gone through are found. -/
theorem Walked.exists_locate {events : List Event} {place : Place} {surface : Surface}
    (h : modules.Walked events place surface) {source : String}
    (hmem : .wildcard source ∈ surface.declarations) (hpath : Specifier.isPath source = true) :
    ∃ next, modules.locate (place.file.dir.joinDir source) = .ok next := by
  obtain ⟨depth, chain, body, hbody, -⟩ := h.body
  obtain ⟨found, hfound, -⟩ := Place.exists_events_of_mem hbody hmem
  change (if Specifier.isPath source then _ else _) = _ at hfound
  rw [if_pos hpath, h.baseDir_eq] at hfound
  obtain ⟨next, hlog⟩ := descend_eq_ok hfound
  cases depth with
  | zero => cases hlog
  | succ depth => exact ⟨next, (log_cases hlog).1⟩

end Modules

/-! ## Barrels -/

namespace FileSystem

variable {fs : FileSystem} {path directory root file : Path} {error : BarrelError}

/-- The file can be read, its text is a module, and every `export *` with a path leads to a
file. -/
def IsIntact (fs : FileSystem) (file : Path) : Prop :=
  ∃ text surface, fs.read file = .ok text ∧ Surface.parse? file text = some surface
    ∧ ∀ source, .wildcard source ∈ surface.declarations → Specifier.isPath source = true →
        ∃ next, fs.locate (file.dir.joinDir source) = .ok next

/-- What is wrong with a file that is not intact. -/
inductive Breaks (fs : FileSystem) (file : Path) : BarrelError → Prop
  | unreadable {cause : FileError} (hread : fs.read file = .error cause) :
      Breaks fs file (.unreadable file cause)
  | malformed {text : String} {faults : List String} (hread : fs.read file = .ok text)
      (hparse : Surface.parse file text = .error faults) :
      Breaks fs file (.malformed file (Source.inWords faults))
  | lost {text source : String} {surface : Surface} {error : BarrelError}
      (hread : fs.read file = .ok text) (hparse : Surface.parse? file text = some surface)
      (hmem : .wildcard source ∈ surface.declarations) (hpath : Specifier.isPath source = true)
      (hlocate : fs.locate (file.dir.joinDir source) = .error error) : Breaks fs file error

/-- Nothing is wrong with an intact file. -/
theorem IsIntact.not_breaks (h : fs.IsIntact file) : ¬fs.Breaks file error := by
  obtain ⟨text, surface, hread, hparse, hfound⟩ := h
  intro hbreaks
  cases hbreaks with
  | unreadable hfails => cases hread.symm.trans hfails
  | malformed hother hfails =>
    cases hread.symm.trans hother
    cases (Surface.parse?_eq_some_iff.mp hparse).symm.trans hfails
  | lost hother hsome hmem hpath hlost =>
    cases hread.symm.trans hother
    cases hparse.symm.trans hsome
    obtain ⟨next, hnext⟩ := hfound _ hmem hpath
    cases hnext.symm.trans hlost

theorem breaks_of_surface_eq_error (h : fs.modules.surface file = .error error) :
    fs.Breaks file error := by
  simp only [modules] at h
  split at h
  · next text hread =>
    cases hparse : Surface.parse file text with
    | ok surface => rw [hparse] at h; cases h
    | error faults =>
      rw [hparse] at h
      cases h
      exact .malformed hread hparse
  · next cause hread =>
    cases h
    exact .unreadable hread

/-- The visit where an error arose belongs to a file that is reached and broken. -/
theorem exists_breaks_of_visits (hroot : fs.locate directory = .ok root) {chain : List Path}
    {segment : String} {viaWildcard : Bool}
    (hvisit : fs.modules.Visits directory chain path segment viaWildcard)
    (h : fs.modules.locate path = .error error
      ∨ ∃ file, fs.modules.locate path = .ok file ∧ fs.modules.surface file = .error error) :
    ∃ file, fs.modules.Reaches root file ∧ fs.Breaks file error := by
  rcases h with hlost | ⟨file, hlocate, hsurface⟩
  · cases hvisit with
    | first => cases hroot.symm.trans hlost
    | next hprevious hlocate _ hsurface hmem hpath =>
      obtain ⟨text, hread, hparse⟩ := surface_eq_ok_iff.mp hsurface
      exact ⟨_, (hprevious.reaches hroot hlocate).1, .lost hread hparse hmem hpath hlost⟩
  · exact ⟨file, (hvisit.reaches hroot hlocate).1, breaks_of_surface_eq_error hsurface⟩

/-- The log of a directory's index file tells what every depth gives. -/
theorem flatten_withDepth_eq_log (hdirectory : fs.absolute path = .ok directory) (depth : Nat) :
    (fs.withDepth depth).flatten path
      = (fs.modules.log (depth + 1) [] directory "" false).map fun logged =>
        ⟨directory, logged.1, (Walk.empty.replay logged.2).exports,
          (Walk.empty.replay logged.2).diagnostics⟩ := by
  have habsolute : (fs.withDepth depth).absolute path = .ok directory := hdirectory
  exact flatten_eq_log habsolute

/-- A barrel that was flattened has the log of its index file. -/
theorem FlattensTo.exists_log_ok (hdirectory : fs.absolute path = .ok directory) {barrel : Barrel}
    (h : fs.FlattensTo path (.ok barrel)) :
    ∃ depth root events, fs.modules.log (depth + 1) [] directory "" false = .ok (root, events) := by
  obtain ⟨depth, hflatten⟩ := h.exists_depth
  rw [flatten_withDepth_eq_log hdirectory] at hflatten
  cases hlog : fs.modules.log (depth + 1) [] directory "" false with
  | error error => rw [hlog] at hflatten; cases hflatten
  | ok logged => exact ⟨depth, logged.1, logged.2, hlog⟩

/-- Where flattening ends with an error, so does a log. -/
theorem FlattensTo.exists_log_error (hdirectory : fs.absolute path = .ok directory)
    (h : fs.FlattensTo path (.error error)) :
    ∃ depth, fs.modules.log (depth + 1) [] directory "" false = .error error := by
  obtain ⟨depth, hflatten⟩ := h.exists_depth
  rw [flatten_withDepth_eq_log hdirectory] at hflatten
  cases hlog : fs.modules.log (depth + 1) [] directory "" false with
  | ok logged => rw [hlog] at hflatten; cases hflatten
  | error found =>
    rw [hlog] at hflatten
    cases hflatten
    exact ⟨depth, hlog⟩

/-- A directory that leads nowhere is an error, whatever the depth. -/
theorem flattensTo_of_locate_eq_error (hdirectory : fs.absolute path = .ok directory)
    (hlost : fs.locate directory = .error error) : fs.FlattensTo path (.error error) := by
  have hflatten : (fs.withDepth 0).flatten path = .error error := by
    rw [flatten_withDepth_eq_log hdirectory, Modules.log_of_locate_eq_error hlost]
    rfl
  refine flattensTo_of_ends hflatten ?_
  rintro found ⟨⟩
  exact fs.ends_locate directory found hlost

/-- No walk is cut off that may go as deep as there are modules to be reached. -/
theorem flattensTo_of_reachesAtMost {count depth : Nat}
    (hdirectory : fs.absolute path = .ok directory) (hroot : fs.locate directory = .ok root)
    (hcount : fs.modules.ReachesAtMost root count) (hdepth : count ≤ depth) :
    fs.FlattensTo path ((fs.withDepth depth).flatten path) := by
  refine flattensTo_of_ends rfl fun found hdeep => ?_
  rw [flatten_withDepth_eq_log hdirectory] at hdeep
  cases hlog : fs.modules.log (depth + 1) [] directory "" false with
  | ok logged => rw [hlog] at hdeep; cases hdeep
  | error error =>
    rw [hlog] at hdeep
    cases hdeep
    obtain ⟨chain, way, segment, viaWildcard, hvisit, harose⟩ :=
      Modules.exists_visit_of_log_eq_error .first hlog
    rcases harose with (hlost | ⟨file, -, hsurface⟩) | ⟨-, hlength⟩
    · exact fs.ends_locate way found hlost
    · exact fs.ends_surface file found hsurface
    · -- the chain would hold more modules than there are
      have hle := hvisit.length_le hroot hcount
      rw [hlength] at hle
      simp only [List.length_nil] at hle
      omega

/-- In a bounded file system the depth is enough for every path. -/
theorem IsBounded.flattensTo (h : fs.IsBounded) (path : Path) :
    fs.FlattensTo path (fs.flatten path) := by
  cases hdirectory : fs.absolute path with
  | error cause =>
    have hflatten (depth : Nat) : (fs.withDepth depth).flatten path = .error cause := by
      unfold flatten
      rw [show (fs.withDepth depth).absolute path = .error cause from hdirectory]
      rfl
    rw [show fs.flatten path = .error cause from hflatten fs.depth]
    refine flattensTo_of_ends (hflatten 0) ?_
    rintro found ⟨⟩
    exact fs.ends_absolute path found hdirectory
  | ok directory =>
    cases hroot : fs.locate directory with
    | error cause =>
      have hflatten : fs.flatten path = .error cause := by
        rw [flatten_eq_log hdirectory, Modules.log_of_locate_eq_error hroot]
        rfl
      rw [hflatten]
      exact flattensTo_of_locate_eq_error hdirectory hroot
    | ok root =>
      have hcount := h path directory root hdirectory hroot
      exact flattensTo_of_reachesAtMost hdirectory hroot hcount (Nat.le_refl fs.depth)

/-- An error is that of the directory, or a broken file is reached from its index file. -/
theorem FlattensTo.exists_breaks (hdirectory : fs.absolute path = .ok directory)
    (h : fs.FlattensTo path (.error error)) :
    fs.locate directory = .error error
      ∨ ∃ root file, fs.locate directory = .ok root ∧ fs.modules.Reaches root file
          ∧ fs.Breaks file error := by
  cases hroot : fs.locate directory with
  | error cause =>
    cases h.unique (flattensTo_of_locate_eq_error hdirectory hroot)
    exact Or.inl rfl
  | ok root =>
    obtain ⟨depth, hlog⟩ := h.exists_log_error hdirectory
    obtain ⟨chain, way, segment, viaWildcard, hvisit, harose⟩ :=
      Modules.exists_visit_of_log_eq_error .first hlog
    rcases harose with hbroken | ⟨rfl, -⟩
    · obtain ⟨file, hreach, hbreaks⟩ := exists_breaks_of_visits hroot hvisit hbroken
      exact Or.inr ⟨root, file, rfl, hreach, hbreaks⟩
    · exact absurd rfl (h.1 way)

/-- Every file that a walk reaches is intact if the walk succeeds. -/
theorem isIntact_of_log (hconsistent : fs.modules.Consistent) {depth : Nat} {events : List Event}
    (hclean : directory.clean = directory)
    (hlog : fs.modules.log (depth + 1) [] directory "" false = .ok (root, events))
    (hreach : fs.modules.Reaches root file) : fs.IsIntact file := by
  have hroot : fs.modules.IsLocated root := ⟨_, hclean, (Modules.log_cases hlog).1⟩
  -- the walk may have come to the file by another text of its path
  obtain ⟨place, surface, hwalked, hsame⟩ :=
    Modules.exists_walked_of_reachesPast hconsistent hclean hlog hreach.reachesPast
  have hsurface := hconsistent place.file file surface hwalked.located (hreach.isLocated hroot)
    hsame hwalked.surface_eq
  obtain ⟨text, hread, hparse⟩ := surface_eq_ok_iff.mp hsurface
  refine ⟨text, surface, hread, hparse, fun source hmem hpath => ?_⟩
  rw [← hsame.dir.joinDir]
  exact hwalked.exists_locate hmem hpath

/-- A barrel is flattened exactly if its directory leads to an index file from which only finitely
many modules are reached, all of them intact. Every error is that of the directory or of a broken
file that is reached. A directory that leads nowhere is an error, and where only finitely many
modules are reached there is a result. That is so if a directory is at the root and only finitely
many paths in normal form can be read. -/
theorem flattensTo_ok_iff_isIntact (hconsistent : fs.modules.Consistent)
    (hdirectory : fs.absolute path = .ok directory) :
    ((∃ barrel, fs.FlattensTo path (.ok barrel))
        ↔ ∃ root, fs.locate directory = .ok root
            ∧ (∃ count, fs.modules.ReachesAtMost root count)
            ∧ ∀ file, fs.modules.Reaches root file → fs.IsIntact file)
      ∧ (∀ error, fs.FlattensTo path (.error error) →
          fs.locate directory = .error error
            ∨ ∃ root file, fs.locate directory = .ok root ∧ fs.modules.Reaches root file
                ∧ fs.Breaks file error)
      ∧ (∀ error, fs.locate directory = .error error → fs.FlattensTo path (.error error))
      ∧ (∀ root count, fs.locate directory = .ok root → fs.modules.ReachesAtMost root count →
          ∃ result, fs.FlattensTo path result)
      ∧ (fs.IsRegular → fs.HasRootDirectory → fs.readable.Finite →
          ∀ root, fs.locate directory = .ok root →
            fs.modules.ReachesAtMost root fs.readable.ncard) := by
  have hresult : ∀ root count, fs.locate directory = .ok root →
      fs.modules.ReachesAtMost root count → ∃ result, fs.FlattensTo path result :=
    fun root count hroot hcount =>
      ⟨_, flattensTo_of_reachesAtMost hdirectory hroot hcount (Nat.le_refl count)⟩
  refine ⟨⟨?_, ?_⟩, fun error => FlattensTo.exists_breaks hdirectory,
    fun error => flattensTo_of_locate_eq_error hdirectory, hresult, ?_⟩
  · rintro ⟨barrel, hflattens⟩
    obtain ⟨depth, root, events, hlog⟩ := hflattens.exists_log_ok hdirectory
    have hclean := clean_of_absolute hdirectory
    exact ⟨root, (Modules.log_cases hlog).1,
      ⟨_, Modules.reachesAtMost_of_log hconsistent hclean hlog⟩,
      fun file hreach => isIntact_of_log hconsistent hclean hlog hreach⟩
  · rintro ⟨root, hroot, ⟨count, hcount⟩, hintact⟩
    obtain ⟨result, hflattens⟩ := hresult root count hroot hcount
    cases result with
    | ok barrel => exact ⟨barrel, hflattens⟩
    | error error =>
      rcases hflattens.exists_breaks hdirectory with hlost | ⟨found, file, hfound, hreach, hbreaks⟩
      · cases hroot.symm.trans hlost
      · cases hroot.symm.trans hfound
        exact absurd hbreaks (hintact file hreach).not_breaks
  · intro hfs hroot hfinite root hlocate
    have hnormal := isNormal_of_absolute hfs.isAbsolute_cwd hdirectory
    exact hfs.reachesAtMost_readable hroot hfinite hnormal hlocate

end FileSystem

/-- On a disk the depth is enough, so what its commands flatten is the result. -/
theorem Disk.flattensTo_flatten (disk : Disk) (path : Path) :
    disk.view.FlattensTo path (disk.view.flatten path) :=
  disk.isBounded_view.flattensTo path

namespace Fixture

/-- In a fixture with a directory at its root the depth is enough. -/
theorem flattensTo_flatten {fixture : Fixture} (hfs : fixture.view.IsRegular)
    (hroot : fixture.view.HasRootDirectory) (path : Path) :
    fixture.view.FlattensTo path (fixture.view.flatten path) :=
  (isBounded_view hfs hroot).flattensTo path

/-- A ring of two files whose other exports name modules that are not there. -/
def looseEnds : Fixture :=
  ((Fixture.empty (some ⟨"/"⟩)).add ⟨"/b/index.ts"⟩ (.file
      "export * from './x'; export { P } from './gone'; export * as N from './lost';")).add
    ⟨"/b/x.ts"⟩ (.file "export * from '.'; export * from 'package'; export const Q = 1;")

/-- The same ring, but the second file exports all of a module that is not there. -/
def tornRing : Fixture :=
  looseEnds.add ⟨"/b/x.ts"⟩ (.file "export * from '.'; export * from './gone';")

end Fixture

theorem FileSystem.isIntact_looseEnds :
    (Fixture.looseEnds.view.modules.Consistent
        ∧ Fixture.looseEnds.view.absolute ⟨"/b"⟩ = .ok ⟨"/b"⟩
        ∧ ∃ root, Fixture.looseEnds.view.locate ⟨"/b"⟩ = .ok root
          ∧ (∃ count, Fixture.looseEnds.view.modules.ReachesAtMost root count)
          ∧ ∀ file, Fixture.looseEnds.view.modules.Reaches root file →
              Fixture.looseEnds.view.IsIntact file)
      ∧ Fixture.tornRing.view.modules.Consistent
        ∧ Fixture.tornRing.view.absolute ⟨"/b"⟩ = .ok ⟨"/b"⟩
        ∧ Fixture.tornRing.view.FlattensTo ⟨"/b"⟩ (.error (.missing ⟨"/b/gone"⟩))
        ∧ ∃ root file, Fixture.tornRing.view.locate ⟨"/b"⟩ = .ok root
          ∧ Fixture.tornRing.view.modules.Reaches root file
          ∧ Fixture.tornRing.view.Breaks file (.missing ⟨"/b/gone"⟩) := by
  constructor
  · have hconsistent := Fixture.looseEnds.consistent_view
    have habsolute : Fixture.looseEnds.view.absolute ⟨"/b"⟩ = .ok ⟨"/b"⟩ := by
      decide +kernel
    have hflatten : ((Fixture.looseEnds.view.withDepth 3).flatten ⟨"/b"⟩).toOption.isSome
        = true := by decide +kernel
    refine ⟨hconsistent, habsolute, ?_⟩
    refine (FileSystem.flattensTo_ok_iff_isIntact hconsistent habsolute).1.mp ?_
    cases hok : (Fixture.looseEnds.view.withDepth 3).flatten ⟨"/b"⟩ with
    | ok barrel => exact ⟨barrel, flattensTo_of_ends hok (ends_ok barrel)⟩
    | error error => rw [hok] at hflatten; cases hflatten
  · have hconsistent := Fixture.tornRing.consistent_view
    have habsolute : Fixture.tornRing.view.absolute ⟨"/b"⟩ = .ok ⟨"/b"⟩ := by
      decide +kernel
    have hflatten : (Fixture.tornRing.view.withDepth 3).flatten ⟨"/b"⟩
        = .error (.missing ⟨"/b/gone"⟩) := by decide +kernel
    have hflattens := flattensTo_of_ends hflatten (by rintro path ⟨⟩)
    have hlocate : Fixture.tornRing.view.locate ⟨"/b"⟩ = .ok ⟨"/b/index.ts"⟩ := by decide +kernel
    refine ⟨hconsistent, habsolute, hflattens, ?_⟩
    rcases (FileSystem.flattensTo_ok_iff_isIntact hconsistent habsolute).2.1 _ hflattens with
      hlost | hbroken
    · cases hlocate.symm.trans hlost
    · exact hbroken

/-! ## A file at the root -/

/-- The module of a first `export *` cuts the walk of a file off. -/
theorem Modules.not_ends_log_of_wildcard {modules : Modules} {chain : List Path} {path file : Path}
    {source : String} {rest : List Declaration} {imported : List String} {depth : Nat}
    (hlocate : modules.locate path = .ok file) (hoff : onChain chain file = false)
    (hsurface : modules.surface file = .ok ⟨.wildcard source :: rest, imported⟩)
    (hpath : Specifier.isPath source = true)
    (h : ∀ segment,
      ¬Ends (modules.log depth (file :: chain) (file.dir.joinDir source) segment true))
    (segment : String) (viaWildcard : Bool) :
    ¬Ends (modules.log (depth + 1) chain path segment viaWildcard) := by
  intro hends
  rw [log_of_not_onChain hlocate hoff hsurface] at hends
  have hfirst := hends.of_map.of_bind
  change Ends (if Specifier.isPath source then _ else _) at hfirst
  rw [if_pos hpath] at hfirst
  exact h _ hfirst.of_bind

/-- The file `x.ts` so many directories up. -/
def Path.Climbs (count : Nat) (path : Path) : Prop :=
  path.components = List.replicate count .parent ++ [.name "x.ts"]

namespace Path.Climbs

variable {count other : Nat} {path : Path}

theorem steps_eq (h : path.Climbs count) :
    steps path.text.toList = List.replicate count .parent ++ [.name "x.ts"] := by
  rw [← filter_isStep_components, show path.components = _ from h]
  refine List.filter_eq_self.mpr fun c hc => decide_eq_true ?_
  rcases List.mem_append.mp hc with hparent | hname
  · rw [List.eq_of_mem_replicate hparent]
    exact isStep_parent
  · rw [List.mem_singleton.mp hname]
    decide

theorem fileName?_eq (h : path.Climbs count) : path.fileName? = some "x.ts" := by
  rw [fileName?, show path.components = _ from h, List.getLast?_concat]

theorem unique (h : path.Climbs count) (hother : path.Climbs other) : count = other := by
  have hlength := congrArg List.length (Eq.trans (Eq.symm h) hother)
  simpa using hlength

theorem components_dir (h : path.Climbs count) :
    path.dir.components = List.replicate count .parent := by
  unfold dir
  cases hparent : path.parent? with
  | none =>
    have hmem : Component.name "x.ts" ∈ path.components := by
      rw [show path.components = _ from h]
      simp
    rcases (parent?_eq_none_iff path).mp hparent with hnil | honly
    · rw [hnil] at hmem
      cases hmem
    · rw [honly] at hmem
      cases List.mem_singleton.mp hmem
  | some parent =>
    rw [Option.getD_some, components_parent? hparent, show path.components = _ from h,
      List.dropLast_concat]

/-- From the directory of the file, `../x.ts` leads one directory further up. -/
theorem joinDir (h : path.Climbs count) : (path.dir.joinDir "../x.ts").Climbs (count + 1) := by
  have hparents (n : Nat) : (List.replicate n Component.parent).foldl Component.cleanStep []
      = List.replicate n .parent := by
    induction n with
    | zero => rfl
    | succ n ih =>
      rw [List.replicate_succ', List.foldl_append, ih, ← List.replicate_succ']
      cases n <;> rfl
  have hjoined : (path.dir.join "../x.ts").stack
      = .name "x.ts" :: List.replicate (count + 1) .parent := by
    rw [stack_join _ (by decide), stack, h.components_dir, hparents,
      show steps "../x.ts".toList = [.parent, .name "x.ts"] by decide]
    cases count <;> rfl
  show (path.dir.join "../x.ts").clean.components = _
  rw [components_clean, hjoined, if_neg (by simp), List.reverse_cons, List.reverse_replicate]

end Path.Climbs

/-- A barrel that exports all of a file at the root itself, and one that exports all of itself, by a
path that leads further up. -/
def Fixture.rootLoop : Fixture :=
  (((Fixture.empty (some ⟨"/"⟩)).add ⟨"/b/index.ts"⟩ (.file "export * from '/';")).add
    ⟨"/x.ts"⟩ (.file "export * from '../x.ts';")).add
    ⟨"/"⟩ (.file "export * from './x.ts';")

namespace Fixture

variable {count : Nat} {path : Path}

/-- However far up the file is looked for, it is the same. -/
theorem locationOf_rootLoop (h : path.Climbs count) : rootLoop.locationOf path = ["x.ts"] := by
  have hparents (n : Nat) : (List.replicate n Component.parent).foldl (fun stack c =>
      if c = .parent then stack.tail else c.text :: stack) [] = [] := by
    induction n with
    | zero => rfl
    | succ n ih => exact ih
  show Location.ofText ((⟨"/"⟩ : Path).join path.text).text = _
  rw [Location.ofText_eq_foldl, Path.steps_join, h.steps_eq,
    show Path.steps "/".toList = [] by decide, ite_self, List.nil_append, List.foldl_append,
    hparents]
  rfl

theorem get?_rootLoop (h : path.Climbs count) :
    rootLoop.entries.get? (rootLoop.locationOf path) = some (.file "export * from '../x.ts';") := by
  rw [locationOf_rootLoop h]
  decide +kernel

theorem locate_rootLoop (h : path.Climbs count) :
    rootLoop.view.modules.locate path = .ok path := by
  have hfind := (find_eq_ok_iff "get metadata for").mpr (get?_rootLoop h)
  have hmetadata : rootLoop.view.metadata path = .ok ⟨false, true⟩ := by
    show rootLoop.metadata path = _
    rw [metadata, hfind]
    rfl
  show rootLoop.view.locate path = _
  rw [FileSystem.locate, hmetadata]
  rfl

theorem surface_rootLoop (h : path.Climbs count) :
    rootLoop.view.modules.surface path = .ok ⟨[.wildcard "../x.ts"], []⟩ := by
  refine FileSystem.surface_eq_ok_iff.mpr ⟨_, read_eq_ok_iff.mpr (get?_rootLoop h), ?_⟩
  have hdialect : Source.Dialect.ofPath path = Source.Dialect.ofPath ⟨"x.ts"⟩ := by
    have hname : (⟨"x.ts"⟩ : Path).fileName? = some "x.ts" := by decide
    simp only [Source.Dialect.ofPath, Path.fileStem?, Path.extension?, h.fileName?_eq, hname]
  rw [Surface.parse?, Surface.parse, hdialect]
  decide +kernel

/-- A walk that comes to the file by a new path goes on to the next one. -/
theorem not_ends_log_rootLoop (h : path.Climbs count) {chain : List Path}
    (hchain : ∀ file ∈ chain, ∀ other, count ≤ other → ¬file.Climbs other) (depth : Nat)
    (segment : String) : ¬Ends (rootLoop.view.modules.log depth chain path segment true) := by
  -- the chain holds no path that leads as far up as those that are still to come
  induction depth generalizing count path chain segment with
  | zero => exact fun hends => hends path rfl
  | succ depth ih =>
    have hoff : onChain chain path = false := by
      refine List.any_eq_false.mpr fun file hfile hsame => ?_
      exact hchain file hfile count (Nat.le_refl _) (Eq.trans (of_decide_eq_true hsame) h)
    have hnext : ∀ file ∈ path :: chain, ∀ other, count + 1 ≤ other → ¬file.Climbs other := by
      intro file hfile other hle hclimbs
      rcases List.mem_cons.mp hfile with rfl | hin
      · have heq := h.unique hclimbs
        omega
      · exact hchain file hin other (by omega) hclimbs
    exact Modules.not_ends_log_of_wildcard (locate_rootLoop h) hoff (surface_rootLoop h)
      (by decide) (ih h.joinDir hnext) segment true

theorem locate_root_rootLoop : rootLoop.view.modules.locate ⟨"/"⟩ = .ok ⟨"/"⟩ := by
  decide +kernel

theorem surface_root_rootLoop :
    rootLoop.view.modules.surface ⟨"/"⟩ = .ok ⟨[.wildcard "./x.ts"], []⟩ := by
  decide +kernel

theorem locate_index_rootLoop : rootLoop.view.modules.locate ⟨"/b"⟩ = .ok ⟨"/b/index.ts"⟩ := by
  decide +kernel

theorem surface_index_rootLoop :
    rootLoop.view.modules.surface ⟨"/b/index.ts"⟩ = .ok ⟨[.wildcard "/"], []⟩ := by
  decide +kernel

/-- From the root, which has no directory, the paths are relative. -/
theorem climbs_rootLoop : ((⟨"/"⟩ : Path).dir.joinDir "./x.ts").Climbs 0 := by
  show Path.components _ = _
  decide +kernel

/-- The walk of the barrel is cut off at every depth. -/
theorem not_ends_flatten_rootLoop (depth : Nat) :
    ¬Ends ((rootLoop.view.withDepth depth).flatten ⟨"/b"⟩) := by
  have habsolute : rootLoop.view.absolute ⟨"/b"⟩ = .ok ⟨"/b"⟩ := by decide +kernel
  have hchain : ∀ file ∈ [(⟨"/"⟩ : Path), ⟨"/b/index.ts"⟩], ∀ other, 0 ≤ other →
      ¬file.Climbs other := by
    intro file hfile other _ hclimbs
    have hname := hclimbs.fileName?_eq
    rcases List.mem_cons.mp hfile with rfl | hindex
    · cases hname
    · rw [List.mem_singleton.mp hindex] at hname
      exact absurd hname (by decide)
  have hoff : onChain [⟨"/b/index.ts"⟩] (⟨"/"⟩ : Path) = false := by decide
  have hnext : (⟨"/b/index.ts"⟩ : Path).dir.joinDir "/" = ⟨"/"⟩ := by decide +kernel
  intro hends
  rw [FileSystem.flatten_withDepth_eq_log habsolute] at hends
  refine Modules.not_ends_log_of_wildcard locate_index_rootLoop rfl surface_index_rootLoop
    (by decide) (fun segment => ?_) "" false hends.of_map
  rw [hnext]
  cases depth with
  | zero => exact fun hzero => hzero _ rfl
  | succ depth =>
    exact Modules.not_ends_log_of_wildcard locate_root_rootLoop hoff surface_root_rootLoop
      (by decide) (not_ends_log_rootLoop climbs_rootLoop hchain depth) segment true

/-- What the barrel reaches: its index file, the file at the root, and one file by all the paths
that lead up to it. -/
theorem cases_of_reaches_rootLoop {file : Path}
    (h : rootLoop.view.modules.Reaches ⟨"/b/index.ts"⟩ file) :
    file = ⟨"/b/index.ts"⟩ ∨ file = ⟨"/"⟩ ∨ ∃ count, file.Climbs count := by
  induction h with
  | refl => exact Or.inl rfl
  | tail _ hedge ih =>
    obtain ⟨surface, source, hsurface, hmem, -, hlocate⟩ := hedge
    rcases ih with rfl | rfl | ⟨count, hclimbs⟩
    · cases surface_index_rootLoop.symm.trans hsurface
      cases List.mem_singleton.mp hmem
      exact Or.inr (Or.inl (Except.ok.inj (hlocate.symm.trans locate_root_rootLoop)))
    · cases surface_root_rootLoop.symm.trans hsurface
      cases List.mem_singleton.mp hmem
      have hnext := Except.ok.inj ((locate_rootLoop climbs_rootLoop).symm.trans hlocate)
      exact Or.inr (Or.inr ⟨0, hnext ▸ climbs_rootLoop⟩)
    · cases (surface_rootLoop hclimbs).symm.trans hsurface
      cases List.mem_singleton.mp hmem
      have hnext := Except.ok.inj ((locate_rootLoop hclimbs.joinDir).symm.trans hlocate)
      exact Or.inr (Or.inr ⟨count + 1, hnext ▸ hclimbs.joinDir⟩)

/-- A file of one `export *` whose module is found is intact. -/
theorem isIntact_of_surface {fs : FileSystem} {file next : Path} {source : String}
    (hsurface : fs.modules.surface file = .ok ⟨[.wildcard source], []⟩)
    (hlocate : fs.modules.locate (file.dir.joinDir source) = .ok next) : fs.IsIntact file := by
  obtain ⟨text, hread, hparse⟩ := FileSystem.surface_eq_ok_iff.mp hsurface
  refine ⟨text, _, hread, hparse, fun found hmem _ => ?_⟩
  cases List.mem_singleton.mp hmem
  exact ⟨next, hlocate⟩

/-- Nothing that the barrel reaches is broken. -/
theorem isIntact_of_reaches_rootLoop {file : Path}
    (h : rootLoop.view.modules.Reaches ⟨"/b/index.ts"⟩ file) : rootLoop.view.IsIntact file := by
  rcases cases_of_reaches_rootLoop h with rfl | rfl | ⟨count, hclimbs⟩
  · exact isIntact_of_surface surface_index_rootLoop locate_root_rootLoop
  · exact isIntact_of_surface surface_root_rootLoop (locate_rootLoop climbs_rootLoop)
  · exact isIntact_of_surface (surface_rootLoop hclimbs) (locate_rootLoop hclimbs.joinDir)

/-- A barrel that exports all of a file at the root itself, and that of a module at the root. In the
working directory stands one of the same name that is malformed. -/
def rootFault : Fixture :=
  ((((Fixture.empty (some ⟨"/other"⟩)).add ⟨"/x.ts"⟩ (.file "export const A = 1;")).add
    ⟨"/other/x.ts"⟩ (.file "export v from 'mod'")).add
    ⟨"/b/index.ts"⟩ (.file "export * from '/';")).add
    ⟨"/"⟩ (.file "export * from './x.ts';")

end Fixture

/-- Where all that is reached is intact, flattening need not have a result. It may also fail though
the module that a file exports is found beside that file, and is one. -/
theorem FileSystem.not_flattensTo_rootLoop :
    (Fixture.rootLoop.view.modules.Consistent
        ∧ Fixture.rootLoop.view.absolute ⟨"/b"⟩ = .ok ⟨"/b"⟩
        ∧ Fixture.rootLoop.view.locate ⟨"/b"⟩ = .ok ⟨"/b/index.ts"⟩
        ∧ (∀ file, Fixture.rootLoop.view.modules.Reaches ⟨"/b/index.ts"⟩ file →
            Fixture.rootLoop.view.IsIntact file)
        ∧ ¬∃ result, Fixture.rootLoop.view.FlattensTo ⟨"/b"⟩ result)
      ∧ Fixture.rootFault.view.modules.Consistent
        ∧ Fixture.rootFault.view.absolute ⟨"/b"⟩ = .ok ⟨"/b"⟩
        ∧ Fixture.rootFault.view.locate ⟨"/b"⟩ = .ok ⟨"/b/index.ts"⟩
        ∧ Fixture.rootFault.view.modules.surface ⟨"/b/index.ts"⟩ = .ok ⟨[.wildcard "/"], []⟩
        ∧ Fixture.rootFault.view.locate ⟨"/"⟩ = .ok ⟨"/"⟩
        ∧ Fixture.rootFault.view.modules.surface ⟨"/"⟩ = .ok ⟨[.wildcard "./x.ts"], []⟩
        ∧ Fixture.rootFault.view.locate ((⟨"/"⟩ : Path).joinDir "./x.ts") = .ok ⟨"/x.ts"⟩
        ∧ Fixture.rootFault.view.modules.surface ⟨"/x.ts"⟩ = .ok ⟨[.declared ["A"] []], []⟩
        ∧ Fixture.rootFault.view.FlattensTo ⟨"/b"⟩
          (.error (.malformed ⟨"x.ts"⟩ Source.syntaxFault)) := by
  refine ⟨⟨Fixture.rootLoop.consistent_view, by decide +kernel, Fixture.locate_index_rootLoop,
    fun file => Fixture.isIntact_of_reaches_rootLoop, ?_⟩, Fixture.rootFault.consistent_view,
    by decide +kernel, by decide +kernel, by decide +kernel, by decide +kernel, by decide +kernel,
    by decide +kernel, by decide +kernel, ?_⟩
  · rintro ⟨result, hflattens⟩
    obtain ⟨depth, hflatten⟩ := hflattens.exists_depth
    exact Fixture.not_ends_flatten_rootLoop depth (hflatten ▸ hflattens.1)
  · have hflatten : (Fixture.rootFault.view.withDepth 3).flatten ⟨"/b"⟩
        = .error (.malformed ⟨"x.ts"⟩ Source.syntaxFault) := by decide +kernel
    exact flattensTo_of_ends hflatten (by rintro path ⟨⟩)

end DirectImports
