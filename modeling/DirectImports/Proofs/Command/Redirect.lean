import DirectImports.CommandLine.Run
import DirectImports.Proofs.Command.Sources
import DirectImports.Proofs.Session.Independence

/-!
# What the redirect command does to a disk

The command transforms the collected files before it writes the first of them, so that each result
is the one that the file has by itself on the disk as it was found (`transformOn`). Dealing with the
results one after the other counts failures and changes, and writes what changed (`Covers`). The
steps follow each other (`Covers.append`), one step is `exists_covers_settle`, and a run is
`exists_covers_foldlM`.

No write fails, since a file that was read stays where it is, and no file gets two texts, since
collected paths are in normal form (`isNormal_of_planRedirect`) and so given by their places. Hence
the disk changes as if all files were written at once (`Disk.IsUpdate`).
-/

namespace DirectImports

/-- The second disk is the first one after some of its files got new texts, all at once. -/
structure Disk.IsUpdate (disk after : Disk) (writes : Location → String → Prop) : Prop where
  cwd_eq : after.cwd = disk.cwd
  keys_eq : after.nodes.map (·.1) = disk.nodes.map (·.1)
  node?_of_writes : ∀ location code, writes location code →
    after.node? location = some (.file (some code))
  node?_eq : ∀ location, (∀ code, ¬writes location code) →
    after.node? location = disk.node? location

namespace CommandLine

/-! ## The collected files -/

theorem isNormal_of_planRedirect {disk : Disk} {cwd : Path} (hdisk : disk.nodes.IsPlain)
    (hcwd : cwd.isAbsolute = true) {args : RedirectArgs} {redirector : Redirector}
    {sources : List Path} (h : planRedirect disk cwd args = .ok (redirector, sources)) :
    ∀ path ∈ sources, path.IsNormal := by
  unfold planRedirect at h
  cases hload : loadConfig disk cwd args.config false with
  | error error => rw [hload] at h; cases h
  | ok loaded =>
    simp only [hload, bind, Except.bind] at h
    cases hvalid :
        (adjust args cwd loaded).config.validateOn disk (adjust args cwd loaded).base with
    | error error => rw [hvalid] at h; cases h
    | ok =>
      simp only [hvalid, Except.mapError] at h
      cases hcollect : collectSources disk (adjust args cwd loaded).config cwd
          (args.paths.map Path.mk) with
      | error error => rw [hcollect] at h; cases h
      | ok found =>
        rw [hcollect] at h
        cases h
        exact isNormal_of_collectSources hdisk hcwd hcollect

/-! ## One file after the other -/

/-- What a file's transformation comes to by itself. -/
def transformOn (redirector : Redirector) (fs : FileSystem) (path : Path) : Transformation :=
  ⟨path, ((redirector.transformFile fs path).run.run .empty).1⟩

namespace Transformation

/-- The file could not be transformed. -/
def failed (transformation : Transformation) : Bool :=
  !transformation.result.toBool

/-- The file gets another text. -/
def changed (transformation : Transformation) : Bool :=
  match transformation.result with
  | .ok transformed => transformed.modified
  | .error _ => false

/-- The file, which is at the given place of a disk, gets the given text. -/
def Writes (disk : Disk) (location : Location) (code : String) (transformation : Transformation) :
    Prop :=
  ∃ node transformed, disk.locate transformation.path = .ok (location, node)
    ∧ transformation.result = .ok transformed ∧ transformed.modified = true
    ∧ transformed.code = code

/-- A file that was transformed is on the disk. -/
def IsAt (disk : Disk) (transformation : Transformation) : Prop :=
  ∀ transformed, transformation.result = .ok transformed →
    ∃ location text, disk.locate transformation.path = .ok (location, .file text)

theorem isAt_transformOn (disk : Disk) (redirector : Redirector) (path : Path) :
    (transformOn redirector disk.view path).IsAt disk := by
  intro transformed h
  unfold transformOn Redirector.transformFile at h
  cases hread : disk.view.read path with
  | error cause => rw [hread] at h; cases h
  | ok source =>
    obtain ⟨location, hlocate⟩ := Disk.exists_of_read hread
    exact ⟨location, some source, hlocate⟩

end Transformation

/-- How dealing with some transformed files of a disk, in a state whose disk has the same shape,
leads from a state to another. -/
structure Covers (args : RedirectArgs) (disk : Disk) (done : List Transformation)
    (before after : Progress) : Prop where
  scanned_eq : after.summary.scanned = before.summary.scanned
  failed_eq : after.summary.failed = before.summary.failed + done.countP (·.failed)
  changed_eq : after.summary.changed = before.summary.changed + done.countP (·.changed)
  sameShape : disk.SameShape after.disk
  disk_eq : args.write = false → after.disk = before.disk
  /-- a place that is written holds one of the texts written there, any other what it held -/
  node?_cases : args.write = true → ∀ location,
    (∃ transformation ∈ done, ∃ code, transformation.Writes disk location code
        ∧ after.disk.node? location = some (.file (some code)))
      ∨ ((∀ transformation ∈ done, ∀ code, ¬transformation.Writes disk location code)
        ∧ after.disk.node? location = before.disk.node? location)

section Steps

variable {args : RedirectArgs} {disk : Disk}

theorem Covers.nil {before : Progress} (h : disk.SameShape before.disk) :
    Covers args disk [] before before where
  scanned_eq := rfl
  failed_eq := rfl
  changed_eq := rfl
  sameShape := h
  disk_eq := fun _ => rfl
  node?_cases := fun _ _ => Or.inr ⟨by simp, rfl⟩

theorem Covers.append {first rest : List Transformation} {before between after : Progress}
    (hfirst : Covers args disk first before between) (hrest : Covers args disk rest between after) :
    Covers args disk (first ++ rest) before after where
  scanned_eq := hrest.scanned_eq.trans hfirst.scanned_eq
  failed_eq := by
    rw [hrest.failed_eq, hfirst.failed_eq, List.countP_append, Nat.add_assoc]
  changed_eq := by
    rw [hrest.changed_eq, hfirst.changed_eq, List.countP_append, Nat.add_assoc]
  sameShape := hrest.sameShape
  disk_eq := fun hwrite => (hrest.disk_eq hwrite).trans (hfirst.disk_eq hwrite)
  node?_cases := by
    intro hwrite location
    rcases hrest.node?_cases hwrite location with ⟨transformation, hmem, hwrites⟩ | ⟨hnone, hkept⟩
    · exact Or.inl ⟨transformation, List.mem_append_right _ hmem, hwrites⟩
    · rw [hkept]
      rcases hfirst.node?_cases hwrite location with ⟨transformation, hmem, hwrites⟩ | ⟨hno, hold⟩
      · exact Or.inl ⟨transformation, List.mem_append_left _ hmem, hwrites⟩
      · refine Or.inr ⟨fun transformation hmem => ?_, hold⟩
        rcases List.mem_append.mp hmem with hin | hin
        · exact hno transformation hin
        · exact hnone transformation hin

/-- A file that changes nothing on the disk: a failure, a text that stays, or a run that does not
write. -/
theorem Covers.of_disk_eq {transformation : Transformation} {before after : Progress}
    (hscanned : after.summary.scanned = before.summary.scanned)
    (hfailed : after.summary.failed = before.summary.failed + [transformation].countP (·.failed))
    (hchanged : after.summary.changed
      = before.summary.changed + [transformation].countP (·.changed))
    (hdisk : after.disk = before.disk) (hshape : disk.SameShape before.disk)
    (hkept : args.write = false ∨ transformation.changed = false) :
    Covers args disk [transformation] before after where
  scanned_eq := hscanned
  failed_eq := hfailed
  changed_eq := hchanged
  sameShape := hdisk ▸ hshape
  disk_eq := fun _ => hdisk
  node?_cases := by
    intro hwrite location
    have hunchanged := hkept.resolve_left (by simp [hwrite])
    refine Or.inr ⟨?_, by rw [hdisk]⟩
    intro found hfound code
    rw [List.mem_singleton.mp hfound]
    rintro ⟨node, transformed, -, hresult, hmodified, -⟩
    unfold Transformation.changed at hunchanged
    rw [hresult] at hunchanged
    exact absurd hmodified (by simp [hunchanged])

/-- A transformed file is counted as what it is. -/
theorem Summary.count_spec (summary : Summary) (path : Path) (transformed : Transformed) :
    (summary.count transformed).scanned = summary.scanned
      ∧ (summary.count transformed).failed
        = summary.failed + [(⟨path, .ok transformed⟩ : Transformation)].countP (·.failed)
      ∧ (summary.count transformed).changed
        = summary.changed + [(⟨path, .ok transformed⟩ : Transformation)].countP (·.changed) := by
  unfold Summary.count
  cases hmodified : transformed.modified <;>
    simp [Transformation.failed, Transformation.changed, Except.toBool, hmodified]

/-- A file that gets another text. -/
theorem exists_covers_emit {path : Path} {transformed : Transformed} {before : Progress}
    (hshape : disk.SameShape before.disk) (hmodified : transformed.modified = true)
    (hat : Transformation.IsAt disk ⟨path, .ok transformed⟩) (shown : Path) :
    ∃ after, emit args shown path transformed.code
          { before with summary := before.summary.count transformed } = .ok after
      ∧ Covers args disk [⟨path, .ok transformed⟩] before after := by
  obtain ⟨hscanned, hfailed, hchanged⟩ := before.summary.count_spec path transformed
  unfold emit
  cases hwrite : args.write with
  | false =>
    cases args.check with
    | true => exact ⟨_, rfl, .of_disk_eq hscanned hfailed hchanged rfl hshape (Or.inl hwrite)⟩
    | false => exact ⟨_, rfl, .of_disk_eq hscanned hfailed hchanged rfl hshape (Or.inl hwrite)⟩
  | true =>
    obtain ⟨location, text, hlocate⟩ := hat transformed rfl
    obtain ⟨now, hnow, hwritten, hafter⟩ := hshape.writeText hlocate transformed.code
    have hstore : Store.write before.disk path transformed.code
        = .ok (before.disk.put location transformed.code) := by
      show Disk.describe "write" path (before.disk.writeText path transformed.code) = _
      rw [hwritten]
      rfl
    simp only [if_true, hstore]
    refine ⟨_, rfl, hscanned, hfailed, hchanged, hafter, fun h => by simp [hwrite] at h, ?_⟩
    intro _ place
    dsimp only
    rw [Disk.node?_put hnow]
    by_cases hplace : location = place
    · subst hplace
      rw [if_pos rfl]
      exact Or.inl ⟨_, List.mem_singleton_self _, _,
        ⟨_, transformed, hlocate, rfl, hmodified, rfl⟩, rfl⟩
    · rw [if_neg hplace]
      refine Or.inr ⟨?_, rfl⟩
      intro found hfound code
      rw [List.mem_singleton.mp hfound]
      rintro ⟨node, -, helsewhere, -⟩
      rw [hlocate] at helsewhere
      cases helsewhere
      exact hplace rfl

/-- One file. -/
theorem exists_covers_settle (args : RedirectArgs) (cwd : Path) {transformation : Transformation}
    {before : Progress} (hshape : disk.SameShape before.disk) (hat : transformation.IsAt disk) :
    ∃ after, settle args cwd before transformation = .ok after
      ∧ Covers args disk [transformation] before after := by
  obtain ⟨path, result⟩ := transformation
  cases result with
  | error error => exact ⟨_, rfl, .of_disk_eq rfl rfl rfl rfl hshape (Or.inr rfl)⟩
  | ok transformed =>
    unfold settle
    cases hmodified : transformed.modified with
    | false =>
      obtain ⟨hscanned, hfailed, hchanged⟩ := before.summary.count_spec path transformed
      simp only [hmodified, Bool.false_eq_true, if_false]
      exact ⟨_, rfl, .of_disk_eq hscanned hfailed hchanged rfl hshape (Or.inr hmodified)⟩
    | true =>
      simp only [hmodified, if_true]
      exact exists_covers_emit hshape hmodified hat _

/-- All files. -/
theorem exists_covers_foldlM (args : RedirectArgs) (cwd : Path) {done : List Transformation}
    (hat : ∀ transformation ∈ done, transformation.IsAt disk) (before : Progress)
    (hshape : disk.SameShape before.disk) :
    ∃ after, done.foldlM (settle args cwd) before = .ok after
      ∧ Covers args disk done before after := by
  induction done generalizing before with
  | nil => exact ⟨before, rfl, .nil hshape⟩
  | cons first rest ih =>
    obtain ⟨between, hfirst, hcovers⟩ :=
      exists_covers_settle args cwd hshape (hat first List.mem_cons_self)
    obtain ⟨after, hrest, hothers⟩ := ih
      (fun transformation hmem => hat transformation (List.mem_cons_of_mem _ hmem)) between
      hcovers.sameShape
    refine ⟨after, ?_, hcovers.append hothers⟩
    rw [List.foldlM_cons, hfirst]
    exact hrest

end Steps

/-! ## The command -/

/-- How many of the files cannot be transformed. -/
def failedCount (redirector : Redirector) (fs : FileSystem) (sources : List Path) : Nat :=
  sources.countP fun path => (transformOn redirector fs path).failed

/-- How many of the files get another text. -/
def changedCount (redirector : Redirector) (fs : FileSystem) (sources : List Path) : Nat :=
  sources.countP fun path => (transformOn redirector fs path).changed

/-- One of the files is at the place and gets the text. -/
def Gives (redirector : Redirector) (disk : Disk) (sources : List Path) (location : Location)
    (code : String) : Prop :=
  ∃ path ∈ sources, (transformOn redirector disk.view path).Writes disk location code

/-- No place is given two texts. -/
theorem Gives.unique {redirector : Redirector} {disk : Disk} (hdisk : disk.IsProject)
    {sources : List Path} (hsources : ∀ path ∈ sources, path.IsNormal) {location : Location}
    {code other : String} (h : Gives redirector disk sources location code)
    (hother : Gives redirector disk sources location other) : code = other := by
  obtain ⟨p, hp, node, transformed, hlocate, hresult, -, hcode⟩ := h
  obtain ⟨q, hq, found, again, hfound, hagain, -, hsame⟩ := hother
  have hpath : p = q := hdisk.eq_of_locate (hsources p hp) (hsources q hq) hlocate hfound
  subst hpath
  rw [hresult] at hagain
  cases hagain
  rw [← hcode, ← hsame]

/-- On a disk without links, a redirect command that has come to its files ends with these
counted, and reports failures before changes. If it is asked to write, exactly those files get new
texts whose transformation, on the disk as it was, succeeds and changes them, and they get the texts
that it gives; otherwise the disk stays as it was. -/
theorem isUpdate_of_planRedirect {disk : Disk} (hdisk : disk.IsProject) {args : RedirectArgs}
    {redirector : Redirector} {sources : List Path}
    (hplan : planRedirect disk disk.cwd.toPath args = .ok (redirector, sources)) :
    ((Command.redirect args).run disk).1.result
        = (if 0 < failedCount redirector disk.view sources then
            .error (.transformFailed (failedCount redirector disk.view sources) sources.length)
          else if args.check = true ∧ 0 < changedCount redirector disk.view sources then
            .error (.checkFailed (changedCount redirector disk.view sources))
          else .ok ())
      ∧ (args.write = false → ((Command.redirect args).run disk).2 = disk)
      ∧ (args.write = true →
        disk.IsUpdate ((Command.redirect args).run disk).2 (Gives redirector disk sources)) := by
  have hcwd : disk.cwd.toPath.isAbsolute = true := by
    simp [Path.isAbsolute, Location.toPath]
  have hsources := isNormal_of_planRedirect hdisk.isPlain hcwd hplan
  have hall : transformAll redirector disk.view sources .empty
      = sources.map (transformOn redirector disk.view) :=
    transformAll_eq_map _ _ _ (BarrelCache.isCurrent_empty _)
  have hat : ∀ transformation ∈ sources.map (transformOn redirector disk.view),
      transformation.IsAt disk := by
    intro transformation hmem
    obtain ⟨path, -, rfl⟩ := List.mem_map.mp hmem
    exact Transformation.isAt_transformOn disk redirector path
  obtain ⟨after, hrun, hcovers⟩ := exists_covers_foldlM args disk.cwd.toPath hat
    ⟨[], [], ⟨sources.length, 0, 0, 0, 0⟩, disk⟩ (.refl disk)
  have houtcome : (Command.redirect args).run disk
      = (⟨after.lines, after.notes, some after.summary, verdict args after.summary⟩,
        after.disk) := by
    show runRedirect disk disk.cwd.toPath args = _
    unfold runRedirect
    rw [hplan]
    simp only [hall, hrun]
  have hfailed : after.summary.failed = failedCount redirector disk.view sources := by
    rw [hcovers.failed_eq, List.countP_map]
    exact Nat.zero_add _
  have hchanged : after.summary.changed = changedCount redirector disk.view sources := by
    rw [hcovers.changed_eq, List.countP_map]
    exact Nat.zero_add _
  have hscanned : after.summary.scanned = sources.length := hcovers.scanned_eq
  rw [houtcome]
  refine ⟨?_, hcovers.disk_eq, fun hwrite => ?_⟩
  · dsimp only
    unfold verdict
    rw [hfailed, hchanged, hscanned]
    simp only [Bool.and_eq_true, decide_eq_true_eq]
  · refine ⟨hcovers.sameShape.cwd_eq, hcovers.sameShape.keys_eq, ?_, ?_⟩
    · intro location code hgives
      rcases hcovers.node?_cases hwrite location
        with ⟨found, hmem, other, hwrites, hnode⟩ | ⟨hno, -⟩
      · obtain ⟨path, hpath, rfl⟩ := List.mem_map.mp hmem
        rw [hgives.unique hdisk hsources ⟨path, hpath, hwrites⟩]
        exact hnode
      · obtain ⟨path, hpath, hwrites⟩ := hgives
        exact absurd hwrites (hno _ (List.mem_map_of_mem hpath) code)
    · intro location hnone
      rcases hcovers.node?_cases hwrite location with ⟨found, hmem, other, hwrites, -⟩ | ⟨-, hkept⟩
      · obtain ⟨path, hpath, rfl⟩ := List.mem_map.mp hmem
        exact absurd ⟨path, hpath, hwrites⟩ (hnone other)
      · exact hkept

end CommandLine

/-! ## A project -/

/-- A barrel whose own file imports from it, a file that imports from it, and one that cannot be
transformed. -/
def Disk.project : Disk where
  nodes := [(["p"], .directory), (["p", "unbarrel.toml"], .file (some "barrels = [\"b\"]")),
    (["p", "a.ts"], .file (some "import { A } from './b';")),
    (["p", "b"], .directory),
    (["p", "b", "index.ts"], .file (some "import { A } from '.'; export * from './x';")),
    (["p", "b", "x.ts"], .file (some "export const A = 1;")),
    (["p", "c.ts"], .file (some "import * as all from './b';"))]
  cwd := ["p"]

namespace CommandLine

/-- A command that writes all files below the working directory. -/
def writeAll : RedirectArgs := ⟨["."], true, false, [], false, none⟩

theorem planRedirect_project :
    planRedirect Disk.project Disk.project.cwd.toPath writeAll
      = .ok (⟨[⟨"/p/b"⟩], .relative⟩,
        [⟨"/p/a.ts"⟩, ⟨"/p/b/index.ts"⟩, ⟨"/p/b/x.ts"⟩, ⟨"/p/c.ts"⟩]) := by
  generalize hconfig : ({ Config.default with barrels := [⟨"b"⟩] } : Config) = config
  have hcwd : Disk.project.cwd.toPath = ⟨"/p"⟩ := by decide
  have hload : loadConfig Disk.project ⟨"/p"⟩ writeAll.config false = .ok ⟨config, ⟨"/p"⟩⟩ := by
    subst hconfig
    decide +kernel
  have hadjust : adjust writeAll ⟨"/p"⟩ ⟨config, ⟨"/p"⟩⟩ = ⟨config, ⟨"/p"⟩⟩ := rfl
  have hvalid : config.validateOn Disk.project ⟨"/p"⟩ = .ok () := by
    subst hconfig
    decide +kernel
  have hfound : (writeAll.paths.map Path.mk).mapM
      (fun path => sourcesAt Disk.project config (resolvePath ⟨"/p"⟩ path))
        = .ok [[⟨"/p/a.ts"⟩, ⟨"/p/b/index.ts"⟩, ⟨"/p/b/x.ts"⟩, ⟨"/p/c.ts"⟩]] := by
    subst hconfig
    decide +kernel
  have hcollect := collectSources_of_sorted hfound (by decide +kernel) (by decide +kernel)
  have hredirector : Loaded.redirector ⟨config, ⟨"/p"⟩⟩ Disk.project.view
      = ⟨[⟨"/p/b"⟩], .relative⟩ := by
    subst hconfig
    decide +kernel
  rw [hcwd]
  unfold planRedirect
  simp only [hload, bind, Except.bind, hadjust, hvalid, Except.mapError, hcollect, hredirector]
  rfl

theorem isUpdate_project :
    Disk.project.IsProject
      ∧ ((Command.redirect writeAll).run Disk.project).1.result = .error (.transformFailed 1 4)
      ∧ ((Command.redirect writeAll).run Disk.project).2.node? ["p", "a.ts"]
        = some (.file (some "import { A } from './b/x';"))
      ∧ ((Command.redirect writeAll).run Disk.project).2.node? ["p", "b", "index.ts"]
        = some (.file (some "import { A } from './x'; export * from './x';"))
      ∧ ((Command.redirect writeAll).run Disk.project).2.nodes.map (·.1)
        = Disk.project.nodes.map (·.1) := by
  have hproject : Disk.project.IsProject := ⟨by decide +kernel, by decide +kernel⟩
  obtain ⟨hresult, -, hupdate⟩ := isUpdate_of_planRedirect hproject planRedirect_project
  have hwrites := (hupdate rfl).node?_of_writes
  have ha : (transformOn ⟨[⟨"/p/b"⟩], .relative⟩ Disk.project.view ⟨"/p/a.ts"⟩).result
      = .ok ⟨"import { A } from './b/x';", true, 1, []⟩ := by decide +kernel
  have hindex : (transformOn ⟨[⟨"/p/b"⟩], .relative⟩ Disk.project.view ⟨"/p/b/index.ts"⟩).result
      = .ok ⟨"import { A } from './x'; export * from './x';", true, 1, []⟩ := by decide +kernel
  have hx : (transformOn ⟨[⟨"/p/b"⟩], .relative⟩ Disk.project.view ⟨"/p/b/x.ts"⟩).failed
      = false := by decide +kernel
  have hc : (transformOn ⟨[⟨"/p/b"⟩], .relative⟩ Disk.project.view ⟨"/p/c.ts"⟩).failed
      = true := by decide +kernel
  have hfailed : failedCount ⟨[⟨"/p/b"⟩], .relative⟩ Disk.project.view
      [⟨"/p/a.ts"⟩, ⟨"/p/b/index.ts"⟩, ⟨"/p/b/x.ts"⟩, ⟨"/p/c.ts"⟩] = 1 := by
    have hdone {transformation : Transformation} {transformed : Transformed}
        (h : transformation.result = .ok transformed) : transformation.failed = false := by
      unfold Transformation.failed
      rw [h]
      rfl
    simp [failedCount, hdone ha, hdone hindex, hx, hc]
  refine ⟨hproject, ?_, hwrites _ _ ⟨⟨"/p/a.ts"⟩, by simp, ?_⟩,
    hwrites _ _ ⟨⟨"/p/b/index.ts"⟩, by simp, ?_⟩, (hupdate rfl).keys_eq⟩
  · rw [hresult, hfailed]
    rfl
  · exact ⟨.file (some "import { A } from './b';"), _, by decide +kernel, ha, rfl, rfl⟩
  · exact ⟨.file (some "import { A } from '.'; export * from './x';"), _, by decide +kernel, hindex,
      rfl, rfl⟩

end CommandLine

end DirectImports
