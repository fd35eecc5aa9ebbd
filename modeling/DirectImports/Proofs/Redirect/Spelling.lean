import DirectImports.Proofs.Redirect.Account
import DirectImports.Proofs.Session.Independence

/-!
# Other spellings of the same paths

A path can be written in many ways, and three kinds of paths come together when a statement is
redirected: the barrels that are named, the importing file, and the specifier. Each of them counts
by the place that it leads to and not by its text.

* The barrels of a redirector are the first of the named directories at each place, in the order in
  which they are named (`keepsFirst_make`). So what is a barrel depends on the places only
  (`isBarrel_make_congr`).
* Of the importing file, its directory counts, and of the specifier, the place that it leads to from
  there. With the same barrels the target is then the same (`Respells.target?_eq`), so the same
  imports come out of it, and the same names are missing (`SaysSame`).

A directory that cannot be made absolute stays among the barrels, but no import leads to it.
-/

namespace DirectImports

namespace Redirector

variable {fs : FileSystem} {barrels others kept all : List Path} {style : SpecifierStyle}
  {importer other dir barrel : Path} {statement respelled : ImportStatement}

/-! ## The list of barrels -/

/-- A directory as it stands among the barrels: made absolute, or else as it is. -/
def entryOf (fs : FileSystem) (barrel : Path) : Path :=
  (fs.absolute barrel).toOption.getD barrel

/-- Of the paths at one place, the first is kept, and those that are kept stay in order. -/
structure KeepsFirst (kept all : List Path) : Prop where
  pairwise : kept.Pairwise (¬·.Same ·)
  sublist : kept.Sublist all
  mem_iff : ∀ place, place ∈ kept
    ↔ ∃ front back, all = front ++ place :: back ∧ ∀ earlier ∈ front, ¬earlier.Same place
  exists_same : ∀ place ∈ all, ∃ known ∈ kept, known.Same place

/-- The first path at a place, behind which another path is put, is an earlier one or that one. -/
theorem exists_first_append_singleton_iff {place : Path} :
    (∃ front back, all ++ [barrel] = front ++ place :: back
        ∧ ∀ earlier ∈ front, ¬earlier.Same place)
      ↔ (∃ front back, all = front ++ place :: back ∧ ∀ earlier ∈ front, ¬earlier.Same place)
        ∨ place = barrel ∧ ∀ earlier ∈ all, ¬earlier.Same barrel := by
  constructor
  · rintro ⟨front, back, hsplit, hfirst⟩
    rcases List.eq_nil_or_concat back with rfl | ⟨back, last, rfl⟩
    · obtain ⟨rfl, hbarrel⟩ := List.append_inj' hsplit rfl
      cases hbarrel
      exact Or.inr ⟨rfl, hfirst⟩
    · rw [List.concat_eq_append, ← List.cons_append, ← List.append_assoc] at hsplit
      exact Or.inl ⟨front, back, (List.append_inj' hsplit rfl).1, hfirst⟩
  · rintro (⟨front, back, rfl, hfirst⟩ | ⟨rfl, hfirst⟩)
    · exact ⟨front, back ++ [barrel], by simp, hfirst⟩
    · exact ⟨all, [], rfl, hfirst⟩

/-- A path is added behind the others unless one of them is at its place. -/
theorem KeepsFirst.addBarrel (h : KeepsFirst kept all) (barrel : Path) :
    KeepsFirst (addBarrel kept barrel) (all ++ [barrel]) := by
  unfold Redirector.addBarrel
  by_cases hknown : ∃ known ∈ kept, known.Same barrel
  · rw [if_pos (by simpa using hknown)]
    obtain ⟨known, hmem, hsame⟩ := hknown
    refine ⟨h.pairwise, h.sublist.trans (List.sublist_append_left ..), fun place => ?_, ?_⟩
    · rw [h.mem_iff, exists_first_append_singleton_iff]
      -- the path that was added is not the first at its place
      exact (or_iff_left fun hnew => hnew.2 known (h.sublist.subset hmem) hsame).symm
    · intro place hplace
      rcases List.mem_append.mp hplace with hold | hnew
      · exact h.exists_same place hold
      · rw [List.mem_singleton.mp hnew]
        exact ⟨known, hmem, hsame⟩
  · rw [if_neg (by simpa using hknown)]
    have hnone : ∀ earlier ∈ all, ¬earlier.Same barrel := by
      intro earlier hearlier hsame
      obtain ⟨known, hmem, heq⟩ := h.exists_same earlier hearlier
      exact hknown ⟨known, hmem, heq.trans hsame⟩
    refine ⟨?_, h.sublist.append (List.Sublist.refl _), fun place => ?_, ?_⟩
    · refine List.pairwise_append.mpr ⟨h.pairwise, List.pairwise_singleton .., ?_⟩
      intro known hmem place hplace hsame
      rw [List.mem_singleton.mp hplace] at hsame
      exact hknown ⟨known, hmem, hsame⟩
    · rw [List.mem_append, h.mem_iff, List.mem_singleton, exists_first_append_singleton_iff]
      exact or_congr_right (and_iff_left hnone).symm
    · intro place hplace
      rcases List.mem_append.mp hplace with hold | hnew
      · obtain ⟨known, hmem, hsame⟩ := h.exists_same place hold
        exact ⟨known, List.mem_append_left _ hmem, hsame⟩
      · rw [List.mem_singleton.mp hnew]
        exact ⟨barrel, List.mem_append_right _ List.mem_cons_self, rfl⟩

/-- The barrels of a redirector are the first of the named directories at each place. -/
theorem keepsFirst_make (fs : FileSystem) (barrels : List Path) (style : SpecifierStyle) :
    KeepsFirst (make fs barrels style).barrels (barrels.map (entryOf fs)) := by
  have hmake : (make fs barrels style).barrels
      = (barrels.map (entryOf fs)).foldl Redirector.addBarrel [] := by
    rw [List.foldl_map]
    rfl
  rw [hmake]
  induction barrels.map (entryOf fs) using List.reverseRecOn with
  | nil => exact ⟨.nil, .slnil, by simp, by simp⟩
  | append_singleton front barrel ih =>
    rw [List.foldl_append]
    exact ih.addBarrel barrel

/-- Every barrel of a redirector is one of the directories that it is made for, made absolute. -/
theorem exists_of_mem_make (h : dir ∈ (make fs barrels style).barrels) :
    ∃ barrel ∈ barrels, dir = (fs.absolute barrel).toOption.getD barrel := by
  obtain ⟨barrel, hbarrel, rfl⟩ :=
    List.mem_map.mp ((keepsFirst_make fs barrels style).sublist.subset h)
  exact ⟨barrel, hbarrel, rfl⟩

/-- A place is a barrel if one of the named directories is there. -/
theorem isBarrel_make_iff {place : Path} :
    (make fs barrels style).isBarrel place = true
      ↔ ∃ barrel ∈ barrels, (entryOf fs barrel).Same place := by
  unfold isBarrel
  simp only [List.any_eq_true, decide_eq_true_eq]
  constructor
  · rintro ⟨known, hknown, hsame⟩
    obtain ⟨barrel, hbarrel, rfl⟩ := exists_of_mem_make hknown
    exact ⟨barrel, hbarrel, hsame⟩
  · rintro ⟨barrel, hbarrel, hsame⟩
    obtain ⟨known, hknown, heq⟩ :=
      (keepsFirst_make fs barrels style).exists_same _ (List.mem_map_of_mem hbarrel)
    exact ⟨known, hknown, heq.trans hsame⟩

/-! ## The same directories -/

/-- Two lists name the same directories. -/
def SameDirectories (fs : FileSystem) (barrels others : List Path) : Prop :=
  ∀ dir, (∃ barrel ∈ barrels, fs.absolute barrel = .ok dir)
    ↔ ∃ barrel ∈ others, fs.absolute barrel = .ok dir

theorem absolute_eq_ok {cwd : Path} (hcwd : fs.cwd = .ok cwd) (path : Path) :
    fs.absolute path = .ok (entryOf fs path) := by
  have hsome : ∃ place, fs.absolute path = .ok place := by
    unfold FileSystem.absolute
    split
    · exact ⟨_, rfl⟩
    · rw [hcwd]
      exact ⟨_, rfl⟩
  obtain ⟨place, hplace⟩ := hsome
  rw [entryOf, hplace]
  rfl

/-- What is a barrel depends on the directories only. -/
theorem isBarrel_make_congr {cwd : Path} (hcwd : fs.cwd = .ok cwd)
    (h : SameDirectories fs barrels others) (place : Path) :
    (make fs barrels style).isBarrel place = (make fs others style).isBarrel place := by
  have hentry (list : List Path) : (∃ barrel ∈ list, (entryOf fs barrel).Same place)
      ↔ ∃ dir, dir.Same place ∧ ∃ barrel ∈ list, fs.absolute barrel = .ok dir := by
    simp only [absolute_eq_ok hcwd, Except.ok.injEq]
    constructor
    · rintro ⟨barrel, hbarrel, hsame⟩
      exact ⟨_, hsame, barrel, hbarrel, rfl⟩
    · rintro ⟨_, hsame, barrel, hbarrel, rfl⟩
      exact ⟨barrel, hbarrel, hsame⟩
  rw [Bool.eq_iff_iff, isBarrel_make_iff, isBarrel_make_iff, hentry, hentry]
  exact exists_congr fun dir => and_congr_right fun _ => h dir

/-! ## The same statement -/

/-- A statement in another file says the same with another specifier: the files are in the same
directory, from which the specifiers lead to the same place. -/
structure Respells (fs : FileSystem) (importer other : Path)
    (statement respelled : ImportStatement) : Prop where
  specifiers_eq : respelled.specifiers = statement.specifiers
  typeOnly_eq : respelled.typeOnly = statement.typeOnly
  isPath : Specifier.isPath statement.source = true
  isPath_respelled : Specifier.isPath respelled.source = true
  sameDirectory : ∃ file otherFile, fs.absolute importer = .ok file
    ∧ fs.absolute other = .ok otherFile ∧ otherFile.parent? = file.parent?
    ∧ ∀ dir, file.parent? = some dir → dir.joinDir respelled.source = dir.joinDir statement.source

/-- Two answers say the same about statements with other specifiers: the same imports come out of
both, and the same names are missing, or they fail for the same reason. -/
inductive SaysSame (importer other : Path) (source respelled : String) :
    Except RedirectError Redirection → Except RedirectError Redirection → Prop
  | refused (kinds : String) :
      SaysSame importer other source respelled (.error (.unsupportedShape source importer kinds))
        (.error (.unsupportedShape respelled other kinds))
  | failed (cause : BarrelError) :
      SaysSame importer other source respelled (.error (.barrel cause)) (.error (.barrel cause))
  | answered (outcome : Outcome) (missing : List String) :
      SaysSame importer other source respelled
        (.ok ⟨outcome, missing.map (droppedFinding importer source)⟩)
        (.ok ⟨outcome, missing.map (droppedFinding other respelled)⟩)

variable {first second : Redirector} {barrelOf : Barrel} {specifiers : List ImportSpecifier}
  {replacements found : List ImportStatement} {diagnostics findings : List Diagnostic}

/-- A specifier in a file that has no directory has no target. -/
theorem target?_of_parent?_eq_none {file : Path} (hfile : fs.absolute importer = .ok file)
    (hparent : file.parent? = none) (source : String) :
    first.target? fs importer source = none := by
  rw [Option.eq_none_iff_forall_ne_some]
  intro target htarget
  obtain ⟨found, dir, hfound, hdir, -⟩ := exists_of_target? htarget
  rw [hfile] at hfound
  cases hfound
  rw [hparent] at hdir
  cases hdir

/-- With the same barrels the target is the same. -/
theorem Respells.target?_eq (h : Respells fs importer other statement respelled)
    (hbarrels : ∀ place, first.isBarrel place = second.isBarrel place) :
    second.target? fs other respelled.source = first.target? fs importer statement.source := by
  obtain ⟨file, otherFile, hfile, hother, hparent, hplace⟩ := h.sameDirectory
  cases hdir : file.parent? with
  | none =>
    rw [hdir] at hparent
    rw [target?_of_parent?_eq_none hfile hdir, target?_of_parent?_eq_none hother hparent]
  | some dir =>
    rw [hdir] at hparent
    rw [target?_of_joinDir hfile hdir h.isPath,
      target?_of_joinDir hother hparent h.isPath_respelled, hplace dir hdir, funext hbarrels]

/-- An account of specifiers is determined by them. -/
theorem Accounts.unique
    (h : first.Accounts barrelOf importer dir statement specifiers replacements diagnostics)
    (hother : first.Accounts barrelOf importer dir statement specifiers found findings) :
    replacements = found ∧ diagnostics = findings := by
  induction h generalizing found findings with
  | nil => cases hother; exact ⟨rfl, rfl⟩
  | kept hget _ ih =>
    cases hother with
    | kept hfound hrest =>
      rw [hget] at hfound
      cases hfound
      obtain ⟨rfl, rfl⟩ := ih hrest
      exact ⟨rfl, rfl⟩
    | dropped hfound hrest => rw [hget] at hfound; cases hfound
  | dropped hget _ ih =>
    cases hother with
    | kept hfound hrest => rw [hget] at hfound; cases hfound
    | dropped hfound hrest =>
      obtain ⟨rfl, rfl⟩ := ih hrest
      exact ⟨rfl, rfl⟩

/-- In another spelling the account has the same imports, and the same names are missing. -/
theorem Accounts.exists_respelled (other : Path) (hstyle : second.style = first.style)
    (htype : respelled.typeOnly = statement.typeOnly)
    (h : first.Accounts barrelOf importer dir statement specifiers replacements diagnostics) :
    ∃ missing : List String,
      diagnostics = missing.map (droppedFinding importer statement.source)
        ∧ second.Accounts barrelOf other dir respelled specifiers replacements
            (missing.map (droppedFinding other respelled.source)) := by
  induction h with
  | nil => exact ⟨[], rfl, .nil⟩
  | @kept imported binding isType record _ _ _ hget _ ih =>
    obtain ⟨missing, rfl, hrest⟩ := ih
    refine ⟨missing, rfl, ?_⟩
    have hsource : second.sourceFor barrelOf record dir = first.sourceFor barrelOf record dir := by
      unfold sourceFor
      rw [hstyle]
    rw [← hsource, ← htype]
    exact .kept hget hrest
  | dropped hget _ ih =>
    obtain ⟨missing, rfl, hrest⟩ := ih
    exact ⟨_ :: missing, rfl, .dropped hget hrest⟩

/-! ## The same answer -/

/-- About a flattened barrel, redirecting says the same in another spelling. -/
theorem saysSame_redirection (hstyle : second.style = first.style)
    (hspecifiers : respelled.specifiers = statement.specifiers)
    (htype : respelled.typeOnly = statement.typeOnly)
    (hnamed : statement.specifiers.filterMap (·.wholeKind?) = []) :
    SaysSame importer other statement.source respelled.source
      (.ok (first.redirection barrelOf importer dir statement))
      (.ok (second.redirection barrelOf other dir respelled)) := by
  obtain ⟨replacements, diagnostics, haccounts, hfirst⟩ :=
    exists_accounts_redirection first barrelOf importer dir hnamed
  obtain ⟨found, findings, hfound, hsecond⟩ :=
    exists_accounts_redirection second barrelOf other dir (hspecifiers ▸ hnamed)
  obtain ⟨missing, rfl, hrespelled⟩ :=
    haccounts.exists_respelled other hstyle htype
  rw [hspecifiers] at hfound
  obtain ⟨rfl, rfl⟩ := hrespelled.unique hfound
  rw [hfirst, hsecond]
  exact .answered _ missing

/-- With the same barrels and the same cache, redirecting says the same in another spelling, and
leaves the same cache. -/
theorem Respells.exists_run_redirect (h : Respells fs importer other statement respelled)
    (hbarrels : ∀ place, first.isBarrel place = second.isBarrel place)
    (hstyle : second.style = first.style) (cache : BarrelCache) :
    ∃ answer otherAnswer after,
      (first.redirect fs importer statement).run.run cache = (answer, after)
        ∧ (second.redirect fs other respelled).run.run cache = (otherAnswer, after)
        ∧ SaysSame importer other statement.source respelled.source answer otherAnswer := by
  have hsame := h.target?_eq hbarrels
  cases htarget : first.target? fs importer statement.source with
  | none =>
    rw [htarget] at hsame
    exact ⟨_, _, _, run_redirect_of_target?_eq_none htarget cache,
      run_redirect_of_target?_eq_none hsame cache, .answered .untouched []⟩
  | some target =>
    rw [htarget] at hsame
    cases hkinds : statement.specifiers.filterMap (·.wholeKind?) with
    | cons kind kinds =>
      rw [run_redirect, run_redirect, htarget, hsame, fullKinds_eq_filterMap,
        fullKinds_eq_filterMap, h.specifiers_eq, hkinds]
      exact ⟨_, _, _, rfl, rfl, .refused _⟩
    | nil =>
      obtain ⟨file, dir, hfile, hdir, hrun⟩ := run_redirect_of_target? htarget hkinds cache
      obtain ⟨otherFile, otherDir, hother, hotherDir, hotherRun⟩ :=
        run_redirect_of_target? hsame (h.specifiers_eq ▸ hkinds) cache
      -- both files are in the same directory
      have hdirs : otherDir = dir := by
        obtain ⟨place, otherPlace, hplace, hotherPlace, hparent, -⟩ := h.sameDirectory
        rw [hfile] at hplace
        rw [hother] at hotherPlace
        cases hplace
        cases hotherPlace
        rw [hdir, hotherDir] at hparent
        exact Option.some.inj hparent
      rw [hdirs] at hotherRun
      rw [hrun, hotherRun]
      cases (fs.flattenOnce target).run.run cache with
      | mk result after =>
        cases result with
        | error cause => exact ⟨_, _, _, rfl, rfl, .failed cause⟩
        | ok barrelOf =>
          exact ⟨_, _, _, rfl, rfl,
            saysSame_redirection hstyle h.specifiers_eq h.typeOnly_eq hkinds⟩

/-- Redirecting does not depend on how paths are spelled. -/
structure IgnoresSpelling (fs : FileSystem) (barrels : List Path) (style : SpecifierStyle) :
    Prop where
  /-- no directory is among the barrels twice, and the first one named is there, in order -/
  keepsFirst : KeepsFirst (make fs barrels style).barrels (barrels.map (entryOf fs))
  /-- with the same directories, the same is said about a statement in another spelling, from one
  cache and from any two that agree with the files -/
  saysSame : ∀ cwd, fs.cwd = .ok cwd → ∀ others, SameDirectories fs barrels others →
    ∀ importer other statement respelled, Respells fs importer other statement respelled →
      (∀ cache, ∃ answer otherAnswer after,
        ((make fs barrels style).redirect fs importer statement).run.run cache = (answer, after)
          ∧ ((make fs others style).redirect fs other respelled).run.run cache
            = (otherAnswer, after)
          ∧ SaysSame importer other statement.source respelled.source answer otherAnswer)
        ∧ ∀ cache otherCache, cache.IsCurrent fs → otherCache.IsCurrent fs →
          SaysSame importer other statement.source respelled.source
            (((make fs barrels style).redirect fs importer statement).run.run cache).1
            (((make fs others style).redirect fs other respelled).run.run otherCache).1
  /-- without a working directory, a relative directory stays as it is and is never a target -/
  unmatched : ∀ error, fs.cwd = .error error → ∀ barrel ∈ barrels, barrel.isAbsolute = false →
    entryOf fs barrel = barrel
      ∧ ∀ importer source target,
        (make fs barrels style).target? fs importer source = some target → ¬target.Same barrel

theorem ignoresSpelling_make (fs : FileSystem) (barrels : List Path) (style : SpecifierStyle) :
    IgnoresSpelling fs barrels style where
  keepsFirst := keepsFirst_make fs barrels style
  saysSame := by
    intro cwd hcwd others hsame importer other statement respelled hrespells
    have hbarrels : ∀ place, (make fs barrels style).isBarrel place
        = (make fs others style).isBarrel place := isBarrel_make_congr hcwd hsame
    have hrun := hrespells.exists_run_redirect hbarrels rfl
    refine ⟨hrun, fun cache otherCache hcache hother => ?_⟩
    -- a cache that agrees with the files gives the answer of the empty one
    rw [(isSteady_redirect _ fs importer statement cache hcache).1,
      (isSteady_redirect _ fs other respelled otherCache hother).1]
    obtain ⟨answer, otherAnswer, after, hfirst, hsecond, hsays⟩ := hrun .empty
    rw [hfirst, hsecond]
    exact hsays
  unmatched := by
    intro error hcwd barrel hbarrel hrelative
    refine ⟨?_, fun importer source target htarget hsame => ?_⟩
    · unfold entryOf FileSystem.absolute
      rw [if_neg (by simp [hrelative]), hcwd]
      rfl
    · have hnone : ∀ dir, fs.cwd = .ok dir → dir.isAbsolute = true := by
        intro dir hdir
        rw [hcwd] at hdir
        cases hdir
      have hnormal := (isBarrel_of_target? hnone htarget).2
      have habsolute : barrel.isAbsolute = true := by
        rw [Path.isAbsolute_iff_components, ← show target.components = barrel.components from hsame]
        exact (Path.isAbsolute_iff_components target).mp hnormal.1
      rw [hrelative] at habsolute
      cases habsolute

/-- Three spellings of one directory, and two files in one directory that import from it. -/
theorem ignoresSpelling_ring :
    (make Fixture.ring.view [⟨"/b"⟩, ⟨"b/"⟩, ⟨"/x/../b"⟩] .relative).barrels = [⟨"/b"⟩]
      ∧ ∃ answer otherAnswer after,
        ((make Fixture.ring.view [⟨"/b"⟩, ⟨"b/"⟩, ⟨"/x/../b"⟩] .relative).redirect
          Fixture.ring.view ⟨"/a.ts"⟩ mixedImport).run.run .empty = (answer, after)
        ∧ ((make Fixture.ring.view [⟨"./b"⟩] .relative).redirect Fixture.ring.view ⟨"x/../c.ts"⟩
          { mixedImport with source := ".//x/../b/" }).run.run .empty = (otherAnswer, after)
        ∧ answer = .ok ⟨.replaced [⟨"./b/y", [.named "Q" "X" false], false⟩,
            ⟨"./b/y", [.named "Q" "Y" true], false⟩],
          [droppedFinding ⟨"/a.ts"⟩ "./b" "Missing"]⟩
        ∧ SaysSame ⟨"/a.ts"⟩ ⟨"x/../c.ts"⟩ "./b" ".//x/../b/" answer otherAnswer := by
  have hsame : SameDirectories Fixture.ring.view [⟨"/b"⟩, ⟨"b/"⟩, ⟨"/x/../b"⟩] [⟨"./b"⟩] := by
    have hplace : ∀ path ∈ ([⟨"/b"⟩, ⟨"b/"⟩, ⟨"/x/../b"⟩, ⟨"./b"⟩] : List Path),
        Fixture.ring.view.absolute path = .ok ⟨"/b"⟩ := by decide +kernel
    intro dir
    simp [hplace]
  have hrespells : Respells Fixture.ring.view ⟨"/a.ts"⟩ ⟨"x/../c.ts"⟩ mixedImport
      { mixedImport with source := ".//x/../b/" } := by
    refine ⟨rfl, rfl, by decide, by decide, ⟨"/a.ts"⟩, ⟨"/c.ts"⟩, by decide +kernel,
      by decide +kernel, by decide +kernel, ?_⟩
    intro dir hdir
    have hroot : (⟨"/a.ts"⟩ : Path).parent? = some ⟨"/"⟩ := by decide +kernel
    rw [hroot] at hdir
    cases hdir
    decide +kernel
  obtain ⟨answer, otherAnswer, after, hfirst, hsecond, hsays⟩ :=
    ((ignoresSpelling_make Fixture.ring.view [⟨"/b"⟩, ⟨"b/"⟩, ⟨"/x/../b"⟩] .relative).saysSame
      ⟨"/"⟩ rfl [⟨"./b"⟩] hsame _ _ _ _ hrespells).1 .empty
  refine ⟨by decide +kernel, answer, otherAnswer, after, hfirst, hsecond, ?_, hsays⟩
  rw [← show _ = answer from congrArg Prod.fst hfirst]
  decide +kernel

end Redirector

end DirectImports
