import DirectImports.Proofs.Flatten.Reach

/-!
# Where segments lead

A walk goes along two ways at once: by absolute paths, which lead it to files, and by segments,
which it records. Both start at the barrel's directory. They stay together: the segment of a visit,
seen from that directory, leads to the path of the visit (`Visits.joinDir_segment`).

The step that needs care is the one from a path to the directory of the file it leads to. It stays
where it is if the path is a directory and goes up once otherwise, and the segment does the same
(`joinDir_baseSegment`). A file at the root itself has no directory to go up to, so there the two
part (`not_isAnchored_rootFile`).
-/

namespace DirectImports

variable {fs : FileSystem} {directory path file : Path} {segment : String} {viaWildcard : Bool}

/-- The segments of an event, seen from the barrel's directory, lead where the walk is. -/
def Event.IsAnchored (fs : FileSystem) (directory : Path) : Event → Prop
  | .visit _ path segment _ => directory.joinDir segment = path
  | .report .. => True
  | .record place name (.own binding) =>
    fs.locate (directory.joinDir (place.entryOf name (.own binding)).segment) = .ok place.file
  | .record place name (.forward source inner) =>
    Specifier.isPath source = true →
      directory.joinDir (place.entryOf name (.forward source inner)).segment
        = place.file.dir.joinDir source

/-! ## One visit -/

theorem Place.baseSegment_enter (path : Path) (segment : String) (viaWildcard : Bool) (file : Path)
    (surface : Surface) :
    (enter path segment viaWildcard file surface).baseSegment
      = if file.dir.Same path then segment else Specifier.join segment ".." := by
  rw [enter, Path.dir]

/-- The base segment of a place leads to the directory of its file. -/
theorem Place.joinDir_baseSegment (hfs : fs.IsRegular) (hroot : fs.HasRootDirectory)
    (hdir : directory.isAbsolute = true) (hpath : directory.joinDir segment = path)
    (hlocate : fs.locate path = .ok file) (surface : Surface) :
    (directory.joinDir (enter path segment viaWildcard file surface).baseSegment).Same
      file.dir := by
  have hnormal : path.IsNormal := by
    rw [← hpath]
    exact Path.isNormal_joinDir hdir segment
  rw [baseSegment_enter]
  -- the segment goes up exactly if the file is not below the path
  rcases hfs.dir_of_locate hroot hnormal hlocate with hsame | ⟨hne, habove⟩
  · rw [if_pos hsame, hpath]
    exact hsame.symm
  · have hnot : ¬file.dir.Same path := by
      intro hsame
      have hcomponents : file.dir.components = path.components := hsame
      rw [habove, Path.components_of_isAbsolute hnormal.1] at hcomponents
      have hlength := congrArg List.length hcomponents
      simp at hlength
    rw [if_neg hnot, Specifier.joinDir_join, hpath]
    show (path.joinDir "..").components = file.dir.components
    rw [Path.components_joinDir_parent hnormal hne, habove]

/-- A segment that is composed with the base segment leads where the specifier leads. -/
theorem Place.joinDir_join_baseSegment (hfs : fs.IsRegular) (hroot : fs.HasRootDirectory)
    (hdir : directory.isAbsolute = true) (hpath : directory.joinDir segment = path)
    (hlocate : fs.locate path = .ok file) (surface : Surface) (source : String) :
    directory.joinDir
        (Specifier.join (enter path segment viaWildcard file surface).baseSegment source)
      = file.dir.joinDir source := by
  rw [Specifier.joinDir_join]
  exact (joinDir_baseSegment hfs hroot hdir hpath hlocate surface).joinDir source

/-! ## A whole walk -/

/-- The segment of every visit leads to its path. -/
theorem Modules.Visits.joinDir_segment (hfs : fs.IsRegular) (hroot : fs.HasRootDirectory)
    (hdir : directory.IsNormal) {chain : List Path}
    (h : fs.modules.Visits directory chain path segment viaWildcard) :
    directory.joinDir segment = path := by
  induction h with
  | first => exact Path.joinDir_empty hdir
  | next _ hlocate _ _ _ _ ih =>
    exact Place.joinDir_join_baseSegment hfs hroot hdir.1 ih hlocate _ _

/-- Every event that belongs to a visit is anchored. -/
theorem Event.isAnchored_of_explains (hfs : fs.IsRegular) (hroot : fs.HasRootDirectory)
    (hdir : directory.IsNormal) {event : Event} (h : fs.modules.Explains directory event) :
    event.IsAnchored fs directory := by
  cases event with
  | visit chain path segment viaWildcard => exact h.joinDir_segment hfs hroot hdir
  | report => trivial
  | record place name origin =>
    obtain ⟨surface, ⟨chain, path, segment, viaWildcard, file, hvisit, hlocate, -, -, rfl⟩, -⟩ := h
    have hpath := hvisit.joinDir_segment hfs hroot hdir
    cases origin with
    | own binding =>
      show fs.locate (directory.joinDir segment) = .ok file
      rw [hpath]
      exact hlocate
    | forward source inner =>
      intro hispath
      show directory.joinDir (Place.segmentOf _ source) = _
      rw [Place.segmentOf, if_pos hispath]
      exact Place.joinDir_join_baseSegment hfs hroot hdir.1 hpath hlocate surface source

/-! ## Barrels -/

theorem FileSystem.isNormal_of_absolute
    (hcwd : ∀ dir, fs.cwd = .ok dir → dir.isAbsolute = true)
    (h : fs.absolute path = .ok directory) : directory.IsNormal := by
  unfold absolute at h
  split at h
  · next habs =>
    cases h
    exact Path.isNormal_clean habs
  · split at h
    · next cwd hok =>
      cases h
      exact Path.isNormal_clean (Path.isAbsolute_join (hcwd cwd hok) _)
    · cases h

/-- Flattening a barrel visits only modules whose segments lead to them, and all that it records
leads to the file that exports it or to what that file names. -/
theorem FileSystem.isAnchored_of_flatten (hfs : fs.IsRegular) (hroot : fs.HasRootDirectory)
    {barrel : Barrel} (h : fs.flatten path = .ok barrel) :
    ∃ events, fs.modules.log (fs.depth + 1) [] barrel.directory "" false
          = .ok (barrel.rootFile, events)
        ∧ Walk.empty.replay events = ⟨barrel.exports, barrel.diagnostics⟩
        ∧ ∀ event ∈ events, event.IsAnchored fs barrel.directory := by
  obtain ⟨hdirectory, events, hlog, hreplay⟩ := log_of_flatten h
  have hnormal : barrel.directory.IsNormal := isNormal_of_absolute hfs.isAbsolute_cwd hdirectory
  refine ⟨events, hlog, hreplay, fun event hevent => ?_⟩
  exact Event.isAnchored_of_explains hfs hroot hnormal
    (Modules.explains_of_log .first hlog event hevent)

/-- A barrel whose index file exports a module above the root. -/
def Fixture.pastRoot : Fixture :=
  ((Fixture.empty (some ⟨"/"⟩)).add ⟨"/a/b/index.ts"⟩ (.file "export * from '../../../x';")).add
    ⟨"/x.ts"⟩ (.file "export { Y } from './a/y'; export const X = 1;")

theorem FileSystem.isAnchored_of_flatten_pastRoot :
    Fixture.pastRoot.view.IsRegular ∧ Fixture.pastRoot.view.HasRootDirectory
      ∧ ∃ barrel, Fixture.pastRoot.view.flatten ⟨"/a/b"⟩ = .ok barrel
        ∧ barrel.exports = [("Y", ⟨"../../../a/y", none⟩), ("X", ⟨"../../../x", none⟩)]
        ∧ ∃ events, Fixture.pastRoot.view.modules.log (Fixture.pastRoot.view.depth + 1) []
              barrel.directory "" false = .ok (barrel.rootFile, events)
            ∧ Walk.empty.replay events = ⟨barrel.exports, barrel.diagnostics⟩
            ∧ ∀ event ∈ events, event.IsAnchored Fixture.pastRoot.view barrel.directory := by
  have hfs : Fixture.pastRoot.view.IsRegular :=
    Fixture.isRegular_view (by decide +kernel) (by decide +kernel)
  have hmetadata : Fixture.pastRoot.view.metadata ⟨"/"⟩ = .ok ⟨true, false⟩ := by decide +kernel
  have hroot : Fixture.pastRoot.view.HasRootDirectory := hasRootDirectory_of_metadata hmetadata rfl
  have hflatten : Fixture.pastRoot.view.flatten ⟨"/a/b"⟩ = .ok ⟨⟨"/a/b"⟩, ⟨"/a/b/index.ts"⟩,
      [("Y", ⟨"../../../a/y", none⟩), ("X", ⟨"../../../x", none⟩)], []⟩ := by decide +kernel
  exact ⟨hfs, hroot, _, hflatten, rfl, FileSystem.isAnchored_of_flatten hfs hroot hflatten⟩

/-! ## A file at the root -/

/-- A barrel that exports all of a file at the root itself, where modules of one name stand at the
root and in the working directory. -/
def Fixture.rootFile : Fixture :=
  ((((Fixture.empty (some ⟨"/other"⟩)).add ⟨"/x.ts"⟩ (.file "export const A = 1;")).add
    ⟨"/other/x.ts"⟩ (.file "export const B = 1;")).add
    ⟨"/b/index.ts"⟩ (.file "export * from '/';")).add
    ⟨"/"⟩ (.file "export * from './x.ts';")

theorem Fixture.isRegular_rootFile : Fixture.rootFile.view.IsRegular :=
  Fixture.isRegular_view (by decide +kernel) (by decide +kernel)

theorem Fixture.flatten_rootFile : Fixture.rootFile.view.flatten ⟨"/b"⟩
    = .ok ⟨⟨"/b"⟩, ⟨"/b/index.ts"⟩, [("B", ⟨"/x.ts", none⟩)], []⟩ := by
  decide +kernel

/-- A visit whose segment does not lead to its path. -/
def Event.isAstray (directory : Path) : Event → Bool
  | .visit _ path segment _ => directory.joinDir segment != path
  | _ => false

/-- The specifiers of a file at the root are looked up in the working directory, and its segments
at the root. -/
theorem FileSystem.not_isAnchored_rootFile :
    Fixture.rootFile.view.IsRegular
      ∧ Fixture.rootFile.view.flatten ⟨"/b"⟩
          = .ok ⟨⟨"/b"⟩, ⟨"/b/index.ts"⟩, [("B", ⟨"/x.ts", none⟩)], []⟩
      ∧ ∃ events, Fixture.rootFile.view.modules.log (Fixture.rootFile.view.depth + 1) [] ⟨"/b"⟩ ""
            false = .ok (⟨"/b/index.ts"⟩, events)
          ∧ ∃ event ∈ events, ¬event.IsAnchored Fixture.rootFile.view ⟨"/b"⟩ := by
  obtain ⟨-, events, hlog, -⟩ := log_of_flatten Fixture.flatten_rootFile
  have hastray : ((Fixture.rootFile.view.modules.log (Fixture.rootFile.view.depth + 1) [] ⟨"/b"⟩ ""
      false).toOption.any fun logged => logged.2.any (Event.isAstray ⟨"/b"⟩)) = true := by
    decide +kernel
  rw [hlog] at hastray
  obtain ⟨event, hevent, hbad⟩ := List.any_eq_true.mp hastray
  refine ⟨Fixture.isRegular_rootFile, Fixture.flatten_rootFile, events, hlog, event, hevent,
    fun hanchored => ?_⟩
  cases event with
  | visit chain path segment viaWildcard =>
    have hne : (⟨"/b"⟩ : Path).joinDir segment ≠ path := by simpa [Event.isAstray] using hbad
    exact hne hanchored
  | report => cases hbad
  | record => cases hbad

end DirectImports
