import DirectImports.Proofs.Command.Redirect
import DirectImports.Proofs.Redirect.Spelling
import DirectImports.Proofs.Session.History

/-!
# What a passing check promises

The check command flattens each barrel of the configuration. The redirect command comes to its
barrels another way: it asks for one wherever an import leads to it, with the barrels flattened so
far at hand. Both make the same redirector of the configuration, and an import can lead to no other
directory than those of its barrels, so after a passing check no barrel fails to be flattened.

What can still go wrong with a file is its own fault (`TransformError.IsOwn`): it cannot be read, is
no module, or imports a barrel as a whole. An action's errors are followed along the program text
with `FailsOnlyWith`, which is closed under everything that such actions are built from.
-/

namespace DirectImports

/-! ## Actions and their errors -/

/-- The action fails only with errors of a kind, whatever is remembered. -/
def FailsOnlyWith (kind : ε → Prop) (action : ExceptT ε (StateM BarrelCache) α) : Prop :=
  ∀ cache error, (action.run.run cache).1 = .error error → kind error

namespace FailsOnlyWith

variable {ε δ α β : Type} {kind : ε → Prop}

theorem pure (a : α) : FailsOnlyWith kind (Pure.pure a : ExceptT ε (StateM BarrelCache) α) := by
  intro cache error h
  cases h

theorem throw {error : ε} (h : kind error) :
    FailsOnlyWith kind (MonadExcept.throw error : ExceptT ε (StateM BarrelCache) α) := by
  intro cache found hfound
  cases hfound
  exact h

theorem lift {result : Except ε α} (h : ∀ error, result = .error error → kind error) :
    FailsOnlyWith kind (liftM result : ExceptT ε (StateM BarrelCache) α) := by
  intro cache error herror
  cases result with
  | ok a => cases herror
  | error found =>
    cases herror
    exact h error rfl

theorem adapt {other : δ → Prop} {action : ExceptT ε (StateM BarrelCache) α}
    (h : FailsOnlyWith kind action) {f : ε → δ} (hf : ∀ error, kind error → other (f error)) :
    FailsOnlyWith other (action.adapt f) := by
  intro cache error herror
  rw [run_run_adapt] at herror
  cases hresult : (action.run.run cache).1 with
  | ok a => rw [hresult] at herror; cases herror
  | error found =>
    rw [hresult] at herror
    cases herror
    exact hf found (h cache found hresult)

theorem bind {action : ExceptT ε (StateM BarrelCache) α}
    {next : α → ExceptT ε (StateM BarrelCache) β} (h : FailsOnlyWith kind action)
    (hnext : ∀ a, FailsOnlyWith kind (next a)) : FailsOnlyWith kind (action >>= next) := by
  intro cache error herror
  rw [run_run_bind] at herror
  have hfirst := h cache
  generalize action.run.run cache = run at herror hfirst
  obtain ⟨result, after⟩ := run
  cases result with
  | error found =>
    cases herror
    exact hfirst error rfl
  | ok a => exact hnext a after error herror

theorem foldlM {step : β → α → ExceptT ε (StateM BarrelCache) β}
    (h : ∀ done a, FailsOnlyWith kind (step done a)) (items : List α) (done : β) :
    FailsOnlyWith kind (items.foldlM step done) := by
  induction items generalizing done with
  | nil => exact pure done
  | cons a rest ih =>
    rw [List.foldlM_cons]
    exact (h done a).bind ih

end FailsOnlyWith

/-! ## Files and their own faults -/

/-- An import is redirected, or has a shape that is not supported. -/
def RedirectError.IsOwn (path : Path) : RedirectError → Prop
  | .unsupportedShape _ importer _ => importer = path
  | .barrel _ => False

/-- What keeps a file from being transformed is a fault of the file itself: it cannot be read, is
no module, or has an import of a shape that is not supported. -/
def TransformError.IsOwn (path : Path) : TransformError → Prop
  | .unreadable file _ => file = path
  | .malformed file _ => file = path
  | .redirect cause => cause.IsOwn path

/-- Every barrel can be flattened and is written in normal form. -/
def Redirector.IsSound (redirector : Redirector) (fs : FileSystem) : Prop :=
  ∀ dir ∈ redirector.barrels, dir.clean = dir ∧ ∃ barrel, fs.flatten dir = .ok barrel

namespace Redirector

variable {redirector : Redirector} {fs : FileSystem}

/-- A barrel that an import leads to is flattened, whatever is remembered. -/
theorem IsSound.flattenOnce (hsound : redirector.IsSound fs)
    (hcwd : ∀ dir, fs.cwd = .ok dir → dir.isAbsolute = true) {importer target : Path}
    {source : String} (htarget : redirector.target? fs importer source = some target) :
    FailsOnlyWith (fun _ => False) (fs.flattenOnce target) := by
  obtain ⟨hbarrel, hnormal⟩ := isBarrel_of_target? hcwd htarget
  obtain ⟨known, hknown, hsame⟩ := List.any_eq_true.mp hbarrel
  obtain ⟨hclean, barrel, hflatten⟩ := hsound known hknown
  have heq : known = target := Path.eq_of_same_of_clean hclean hnormal.2 (by simpa using hsame)
  rw [heq] at hflatten
  intro cache error herror
  rw [FileSystem.run_flattenOnce, FileSystem.absolute_of_isNormal hnormal] at herror
  simp only [BarrelCache.run_getOrInsert, hflatten] at herror
  cases hget : cache.get? target with
  | some found => rw [hget] at herror; cases herror
  | none => rw [hget] at herror; cases herror

theorem IsSound.redirect (hsound : redirector.IsSound fs)
    (hcwd : ∀ dir, fs.cwd = .ok dir → dir.isAbsolute = true) (importer : Path)
    (statement : ImportStatement) :
    FailsOnlyWith (·.IsOwn importer) (redirector.redirect fs importer statement) := by
  unfold Redirector.redirect
  split
  · exact .pure _
  · next target htarget =>
    split
    · refine ((hsound.flattenOnce hcwd htarget).adapt fun _ => False.elim).bind fun barrel => ?_
      obtain ⟨file, dir, hfile, -, -⟩ := exists_of_target? htarget
      refine (FailsOnlyWith.lift fun error herror => ?_).bind fun file => .pure _
      rw [hfile] at herror
      cases herror
    · exact .throw rfl

theorem IsSound.editItem (hsound : redirector.IsSound fs)
    (hcwd : ∀ dir, fs.cwd = .ok dir → dir.isAbsolute = true) (path : Path)
    (done : List Edit × List Diagnostic) (item : Source.Item) :
    FailsOnlyWith (·.IsOwn path) (redirector.editItem fs path done item) := by
  unfold Redirector.editItem
  split
  · split
    · exact .pure _
    · refine (hsound.redirect hcwd path _).bind fun redirection => ?_
      dsimp only
      split
      · exact .pure _
      · exact .pure _
  · exact .pure _

/-- Where every barrel can be flattened, a file fails only by its own fault. -/
theorem IsSound.transformFile (hsound : redirector.IsSound fs)
    (hcwd : ∀ dir, fs.cwd = .ok dir → dir.isAbsolute = true) (path : Path) :
    FailsOnlyWith (·.IsOwn path) (redirector.transformFile fs path) := by
  unfold Redirector.transformFile
  split
  · unfold Redirector.transform
    split
    · exact .throw rfl
    · next items _ =>
      have hedits := FailsOnlyWith.foldlM (hsound.editItem hcwd path) items ([], [])
      have hadapted : FailsOnlyWith (·.IsOwn path)
          ((items.foldlM (redirector.editItem fs path) ([], [])).adapt TransformError.redirect) :=
        hedits.adapt fun _ h => h
      exact hadapted.bind fun done => .pure _
  · exact .throw rfl

end Redirector

/-! ## The commands -/

namespace CommandLine

variable {disk : Disk} {cwd : Path} {config : Option String}

/-- The check succeeds if all barrels are flattened. -/
theorem flatten_of_checkBarrels {fs : FileSystem} {notes : List Note} {diagnostics : Nat}
    {dirs : List Path} {cache : BarrelCache} (hcache : cache.IsCurrent fs)
    (h : (checkBarrels fs cwd notes diagnostics dirs cache).result = .ok ()) :
    ∀ dir ∈ dirs, ∃ directory barrel, fs.absolute dir = .ok directory
      ∧ fs.flatten directory = .ok barrel := by
  induction dirs generalizing notes diagnostics cache with
  | nil => simp
  | cons dir rest ih =>
    unfold checkBarrels at h
    cases hrun : (fs.flattenOnce dir).run.run cache with
    | mk result after =>
      rw [hrun] at h
      cases result with
      | error error => cases h
      | ok barrel =>
        intro other hother
        rcases List.mem_cons.mp hother with rfl | hrest
        · obtain ⟨directory, habsolute, hflatten⟩ := hcache.flattenOnce hrun
          exact ⟨directory, barrel, habsolute, hflatten⟩
        · exact ih (hcache.of_served (FileSystem.served_of_run hrun)) h other hrest

/-- A check that succeeds has loaded a valid configuration and flattened all its barrels. -/
theorem exists_loaded_of_runCheck (h : (runCheck disk cwd config).result = .ok ()) :
    ∃ loaded, loadConfig disk cwd config true = .ok loaded
      ∧ loaded.config.validateOn disk loaded.base = .ok ()
      ∧ ∀ dir ∈ (loaded.redirector disk.view).barrels,
        ∃ directory barrel, disk.view.absolute dir = .ok directory
          ∧ disk.view.flatten directory = .ok barrel := by
  unfold runCheck at h
  cases hload : loadConfig disk cwd config true with
  | error error => rw [hload] at h; cases h
  | ok loaded =>
    rw [hload] at h
    cases hvalid : loaded.config.validateOn disk loaded.base with
    | error error =>
      simp only [bind, Except.bind, hvalid] at h
      cases h
    | ok =>
      simp only [bind, Except.bind, hvalid] at h
      exact ⟨loaded, rfl, hvalid, flatten_of_checkBarrels (BarrelCache.isCurrent_empty _) h⟩

theorem loadOrDefault_of_load {dir : Path} {found : Config}
    (h : Config.load disk dir = .ok found) : Config.loadOrDefault disk dir = .ok found := by
  unfold Config.loadOrDefault
  rw [h]

/-- A configuration that is found is also the one to work with where none is required. -/
theorem loadConfig_of_required {loaded : Loaded}
    (h : loadConfig disk cwd config true = .ok loaded) :
    loadConfig disk cwd config false = .ok loaded := by
  cases config with
  | some text =>
    unfold loadConfig at h ⊢
    exact h
  | none =>
    unfold loadConfig at h ⊢
    simp only [if_true, Bool.false_eq_true, if_false] at h ⊢
    cases hload : Config.load disk cwd with
    | error error => rw [hload] at h; cases h
    | ok found =>
      rw [hload] at h
      rw [loadOrDefault_of_load hload]
      exact h

/-- Without barrels of its own the command changes at most the style of a configuration. -/
theorem adjust_cases {args : RedirectArgs} (hbarrels : args.barrels = []) (cwd : Path)
    (loaded : Loaded) :
    ∃ style, adjust args cwd loaded = ⟨{ loaded.config with style := style }, loaded.base⟩ := by
  unfold adjust
  rw [hbarrels]
  cases args.absolute with
  | false => exact ⟨loaded.config.style, rfl⟩
  | true => exact ⟨.absolute, rfl⟩

/-- After a passing check, the redirect command loads and validates the configuration, whatever
else it is asked for, so that only its operands can stop it; and every file that it fails to
transform fails by its own fault, never because a barrel cannot be flattened. -/
theorem isOwn_of_runCheck (hcheck : (runCheck disk cwd config).result = .ok ())
    {args : RedirectArgs} (hconfig : args.config = config) (hbarrels : args.barrels = []) :
    ∃ loaded, loadConfig disk cwd args.config false = .ok loaded
      ∧ (adjust args cwd loaded).config.validateOn disk (adjust args cwd loaded).base = .ok ()
      ∧ planRedirect disk cwd args
        = (collectSources disk (adjust args cwd loaded).config cwd (args.paths.map Path.mk)).map
          (fun sources => ((adjust args cwd loaded).redirector disk.view, sources))
      ∧ ∀ redirector sources, planRedirect disk cwd args = .ok (redirector, sources) →
        ∀ transformation ∈ transformAll redirector disk.view sources .empty,
          ∀ error, transformation.result = .error error → error.IsOwn transformation.path := by
  obtain ⟨loaded, hload, hvalid, hflatten⟩ := exists_loaded_of_runCheck hcheck
  obtain ⟨style, hadjust⟩ := adjust_cases hbarrels cwd loaded
  have hloaded : loadConfig disk cwd args.config false = .ok loaded := by
    rw [hconfig]
    exact loadConfig_of_required hload
  -- the style plays no part in the check of a configuration
  have hadjusted : (adjust args cwd loaded).config.validateOn disk (adjust args cwd loaded).base
      = .ok () := by
    rw [hadjust]
    exact hvalid
  have hplan : planRedirect disk cwd args
      = (collectSources disk (adjust args cwd loaded).config cwd (args.paths.map Path.mk)).map
        (fun sources => ((adjust args cwd loaded).redirector disk.view, sources)) := by
    unfold planRedirect
    simp only [bind, Except.bind, hloaded, hadjusted, Except.mapError]
    cases collectSources disk (adjust args cwd loaded).config cwd (args.paths.map Path.mk) <;> rfl
  have hcwd : ∀ dir, disk.view.cwd = .ok dir → dir.isAbsolute = true := by
    intro dir hdir
    cases hdir
    simp [Path.isAbsolute, Location.toPath]
  have hsound : ((adjust args cwd loaded).redirector disk.view).IsSound disk.view := by
    rw [hadjust]
    intro dir hdir
    have hnormal : dir.IsNormal := by
      obtain ⟨barrel, -, heq⟩ := Redirector.exists_of_mem_make hdir
      cases habsolute : disk.view.absolute barrel with
      | error error =>
        unfold FileSystem.absolute at habsolute
        split at habsolute <;> cases habsolute
      | ok directory =>
        rw [habsolute] at heq
        rw [show dir = directory from heq]
        exact FileSystem.isNormal_of_absolute hcwd habsolute
    obtain ⟨directory, barrel, habsolute, hbarrel⟩ := hflatten dir hdir
    rw [FileSystem.absolute_of_isNormal hnormal] at habsolute
    cases habsolute
    exact ⟨hnormal.2, barrel, hbarrel⟩
  refine ⟨loaded, hloaded, hadjusted, hplan, fun redirector sources hredirect => ?_⟩
  have hredirector : redirector = (adjust args cwd loaded).redirector disk.view := by
    rw [hplan] at hredirect
    cases hcollect : collectSources disk (adjust args cwd loaded).config cwd
        (args.paths.map Path.mk) with
    | error error => rw [hcollect] at hredirect; cases hredirect
    | ok found =>
      rw [hcollect] at hredirect
      cases hredirect
      rfl
  subst hredirector
  intro transformation hmem error herror
  rw [transformAll_eq_map _ _ _ (BarrelCache.isCurrent_empty _)] at hmem
  obtain ⟨path, -, rfl⟩ := List.mem_map.mp hmem
  exact hsound.transformFile hcwd path .empty error herror

theorem isOwn_of_runCheck_project :
    (runCheck Disk.project Disk.project.cwd.toPath none).result = .ok ()
      ∧ writeAll.config = none ∧ writeAll.barrels = []
      ∧ (∀ transformation ∈ transformAll ⟨[⟨"/p/b"⟩], .relative⟩ Disk.project.view
          [⟨"/p/a.ts"⟩, ⟨"/p/b/index.ts"⟩, ⟨"/p/b/x.ts"⟩, ⟨"/p/c.ts"⟩] .empty,
        ∀ error, transformation.result = .error error → error.IsOwn transformation.path)
      ∧ (transformOn ⟨[⟨"/p/b"⟩], .relative⟩ Disk.project.view ⟨"/p/c.ts"⟩).failed = true := by
  have hcheck : (runCheck Disk.project Disk.project.cwd.toPath none).result = .ok () := by
    decide +kernel
  obtain ⟨loaded, -, -, -, hown⟩ := isOwn_of_runCheck hcheck
    (show writeAll.config = none from rfl) (show writeAll.barrels = [] from rfl)
  exact ⟨hcheck, rfl, rfl, hown _ _ planRedirect_project, by decide +kernel⟩

end CommandLine

end DirectImports
