import DirectImports.CommandLine.Run
import DirectImports.Proofs.Cache
import DirectImports.Session

/-!
# Answers do not depend on what came before

As long as the files stay as they are, every barrel that is remembered is the one that flattening
would give again (`BarrelCache.IsCurrent`). An action that asks for barrels then answers the same
whatever is remembered, and remembers nothing else (`IsSteady`). Flattening with a cache is such an
action, and what is built from steady actions is steady, so redirecting a statement and
transforming a file are steady too.

Hence a step of a session answers as it would in a session that just began
(`Session.answer_run`), and the redirect command transforms each file as if it were the only one
(`CommandLine.transformAll_eq_map`).
-/

namespace DirectImports

/-! ## Steady actions -/

/-- The action answers the same from every cache that agrees with the files, and keeps it so. -/
def IsSteady (fs : FileSystem) (action : ExceptT ε (StateM BarrelCache) α) : Prop :=
  ∀ cache, cache.IsCurrent fs →
    (action.run.run cache).1 = (action.run.run .empty).1 ∧ (action.run.run cache).2.IsCurrent fs

namespace IsSteady

variable {fs : FileSystem} {ε δ α β : Type}

/-- What does not look at the cache is steady. -/
theorem of_run {action : ExceptT ε (StateM BarrelCache) α} {result : Except ε α}
    (h : ∀ cache, action.run.run cache = (result, cache)) : IsSteady fs action := by
  intro cache hcache
  rw [h, h]
  exact ⟨rfl, hcache⟩

theorem pure (a : α) : IsSteady fs (Pure.pure a : ExceptT ε (StateM BarrelCache) α) :=
  of_run fun _ => rfl

theorem throw (error : ε) :
    IsSteady fs (MonadExcept.throw error : ExceptT ε (StateM BarrelCache) α) :=
  of_run fun _ => rfl

theorem lift (result : Except ε α) :
    IsSteady fs (liftM result : ExceptT ε (StateM BarrelCache) α) := by
  cases result with
  | ok a => exact of_run fun _ => rfl
  | error error => exact of_run fun _ => rfl

theorem adapt {action : ExceptT ε (StateM BarrelCache) α} (h : IsSteady fs action) (f : ε → δ) :
    IsSteady fs (action.adapt f) := by
  intro cache hcache
  obtain ⟨hresult, hafter⟩ := h cache hcache
  rw [run_run_adapt, run_run_adapt, hresult]
  exact ⟨rfl, hafter⟩

theorem bind {action : ExceptT ε (StateM BarrelCache) α}
    {next : α → ExceptT ε (StateM BarrelCache) β} (h : IsSteady fs action)
    (hnext : ∀ a, IsSteady fs (next a)) : IsSteady fs (action >>= next) := by
  intro cache hcache
  obtain ⟨hresult, hafter⟩ := h cache hcache
  obtain ⟨-, hfresh⟩ := h .empty (BarrelCache.isCurrent_empty fs)
  rw [run_run_bind, run_run_bind]
  generalize action.run.run cache = run at hresult hafter
  generalize action.run.run .empty = fresh at hresult hfresh
  obtain ⟨result, after⟩ := run
  obtain ⟨_, freshAfter⟩ := fresh
  cases hresult
  cases result with
  | error error => exact ⟨rfl, hafter⟩
  | ok a =>
    obtain ⟨hrest, hend⟩ := hnext a after hafter
    exact ⟨hrest.trans (hnext a freshAfter hfresh).1.symm, hend⟩

theorem foldlM {step : β → α → ExceptT ε (StateM BarrelCache) β}
    (h : ∀ done a, IsSteady fs (step done a)) (items : List α) (done : β) :
    IsSteady fs (items.foldlM step done) := by
  induction items generalizing done with
  | nil => exact pure done
  | cons a rest ih =>
    rw [List.foldlM_cons]
    exact (h done a).bind ih

end IsSteady

/-! ## What asks for barrels -/

/-- Flattening with a cache gives what flattening gives. -/
theorem FileSystem.isSteady_flattenOnce (fs : FileSystem) (path : Path) :
    IsSteady fs (fs.flattenOnce path) := by
  intro cache hcache
  refine ⟨?_, hcache.of_served (served_of_run rfl)⟩
  rw [run_flattenOnce, run_flattenOnce]
  cases habsolute : fs.absolute path with
  | error error => rfl
  | ok directory =>
    have hfresh : BarrelCache.empty.get? directory = none := rfl
    simp only [BarrelCache.run_getOrInsert, hfresh]
    cases hget : cache.get? directory with
    | some barrel => rw [hcache.flatten_of_get? (clean_of_absolute habsolute) hget]
    | none => cases fs.flatten directory <;> rfl

namespace Redirector

variable (redirector : Redirector) (fs : FileSystem)

theorem isSteady_redirect (importer : Path) (statement : ImportStatement) :
    IsSteady fs (redirector.redirect fs importer statement) := by
  unfold redirect
  split
  · exact .pure _
  · split
    · exact ((fs.isSteady_flattenOnce _).adapt _).bind fun barrel =>
        (IsSteady.lift _).bind fun file => .pure _
    · exact .throw _

theorem isSteady_editItem (path : Path) (done : List Edit × List Diagnostic) (item : Source.Item) :
    IsSteady fs (redirector.editItem fs path done item) := by
  unfold editItem
  split
  · split
    · exact .pure _
    · refine (redirector.isSteady_redirect fs path _).bind fun redirection => ?_
      dsimp only
      split
      · exact .pure _
      · exact .pure _
  · exact .pure _

theorem isSteady_transform (path : Path) (source : String) :
    IsSteady fs (redirector.transform fs path source) := by
  unfold transform
  split
  · exact .throw _
  · next items _ =>
    have hedits := IsSteady.foldlM (redirector.isSteady_editItem fs path) items ([], [])
    exact (hedits.adapt _).bind fun done => .pure _

theorem isSteady_transformFile (path : Path) : IsSteady fs (redirector.transformFile fs path) := by
  unfold transformFile
  split
  · exact redirector.isSteady_transform fs path _
  · exact .throw _

end Redirector

/-! ## Sessions -/

namespace Session

variable {σ : Type} [Store σ] {session : Session σ}

/-- The step leaves the files alone. -/
def Step.isReading : Step → Bool
  | .write .. => false
  | .remove _ => false
  | _ => true

/-- What runs on a cache that agrees with the files answers as it would at the beginning. -/
theorem remembering_of_isSteady {action : ExceptT ε (StateM BarrelCache) α}
    (h : IsSteady session.files action) (hcache : session.cache.IsCurrent session.files)
    (answer : Except ε α → Answer) :
    (session.remembering action answer).1 = answer (action.run.run .empty).1
      ∧ (session.remembering action answer).2.cache.IsCurrent session.files := by
  obtain ⟨hresult, hafter⟩ := h session.cache hcache
  exact ⟨congrArg answer hresult, hafter⟩

/-- What is redirected never changes. -/
theorem redirector_step (session : Session σ) (step : Step) :
    (session.step step).2.redirector = session.redirector := by
  cases step with
  | write path text =>
    simp only [Session.step]
    split <;> rfl
  | _ => rfl

theorem redirector_run (session : Session σ) (steps : List Step) :
    (session.run steps).redirector = session.redirector := by
  induction steps generalizing session with
  | nil => rfl
  | cons step rest ih => exact (ih _).trans (session.redirector_step step)

theorem store_step (session : Session σ) {step : Step} (hstep : step.isReading = true) :
    (session.step step).2.store = session.store := by
  cases step with
  | write path text => cases hstep
  | remove path => cases hstep
  | _ => rfl

/-- A step that leaves the files alone keeps the cache in agreement with them. -/
theorem isCurrent_step (hcache : session.cache.IsCurrent session.files) {step : Step}
    (hstep : step.isReading = true) : (session.step step).2.cache.IsCurrent session.files := by
  cases step with
  | resolve path =>
    exact (remembering_of_isSteady (session.files.isSteady_flattenOnce path) hcache _).2
  | flatten path => exact hcache
  | redirect importer statement =>
    have hsteady := session.redirector.isSteady_redirect session.files importer statement
    exact (remembering_of_isSteady hsteady hcache _).2
  | transform path source =>
    have hsteady := session.redirector.isSteady_transform session.files path source
    exact (remembering_of_isSteady hsteady hcache _).2
  | transformFile path =>
    have hsteady := session.redirector.isSteady_transformFile session.files path
    exact (remembering_of_isSteady hsteady hcache _).2
  | clear => exact BarrelCache.isCurrent_empty _
  | write path text => cases hstep
  | remove path => cases hstep

theorem isCurrent_run {steps : List Step} (hcache : session.cache.IsCurrent session.files)
    (hsteps : ∀ step ∈ steps, step.isReading = true) :
    (session.run steps).files = session.files
      ∧ (session.run steps).cache.IsCurrent session.files := by
  induction steps generalizing session with
  | nil => exact ⟨rfl, hcache⟩
  | cons step rest ih =>
    have hstep := hsteps step List.mem_cons_self
    have hafter := isCurrent_step hcache hstep
    have hfiles : (session.step step).2.files = session.files :=
      congrArg Store.view (session.store_step hstep)
    rw [← hfiles] at hafter ⊢
    exact ih hafter fun later hlater => hsteps later (List.mem_cons_of_mem _ hlater)

/-- After steps that leave the files alone, a text is transformed as at the beginning. -/
theorem answer_run (hempty : session.cache = .empty) {steps : List Step}
    (hsteps : ∀ step ∈ steps, step.isReading = true) (path : Path) (source : String) :
    ((session.run steps).step (.transform path source)).1
      = .transformed
        ((session.redirector.transform session.files path source).run.run .empty).1 := by
  have hcache : session.cache.IsCurrent session.files := by
    rw [hempty]
    exact BarrelCache.isCurrent_empty _
  obtain ⟨hfiles, hafter⟩ := isCurrent_run hcache hsteps
  rw [← hfiles] at hafter
  have hsteady := (session.run steps).redirector.isSteady_transform
    (session.run steps).files path source
  rw [← hfiles, ← session.redirector_run steps]
  exact (remembering_of_isSteady hsteady hafter .transformed).1

end Session

/-! ## The redirect command -/

/-- Each file is transformed as if it were the only one. -/
theorem CommandLine.transformAll_eq_map (redirector : Redirector) (fs : FileSystem)
    (files : List Path) {cache : BarrelCache} (hcache : cache.IsCurrent fs) :
    transformAll redirector fs files cache
      = files.map fun file => ⟨file, ((redirector.transformFile fs file).run.run .empty).1⟩ := by
  induction files generalizing cache with
  | nil => rfl
  | cons file rest ih =>
    obtain ⟨hresult, hafter⟩ := redirector.isSteady_transformFile fs file cache hcache
    rw [List.map_cons, ← hresult, ← ih hafter]
    rfl

namespace Session

/-- Two sessions that began alike and only read since transform a text alike, namely as one that
just began; and the redirect command gives each file its own result, whatever the others are. -/
theorem transform_eq_of_isReading {σ : Type} [Store σ] {session : Session σ}
    (hempty : session.cache = .empty) {earlier others : List Step}
    (hearlier : ∀ step ∈ earlier, step.isReading = true)
    (hothers : ∀ step ∈ others, step.isReading = true) (path : Path) (source : String) :
    ((session.run earlier).step (.transform path source)).1
        = ((session.run others).step (.transform path source)).1
      ∧ ((session.run earlier).step (.transform path source)).1
        = .transformed
          ((session.redirector.transform session.files path source).run.run .empty).1
      ∧ ∀ files, CommandLine.transformAll session.redirector session.files files .empty
        = files.map fun file =>
          ⟨file, ((session.redirector.transformFile session.files file).run.run .empty).1⟩ := by
  have hfirst := answer_run hempty hearlier path source
  have hsecond := answer_run hempty hothers path source
  refine ⟨hfirst.trans hsecond.symm, hfirst, fun files => ?_⟩
  exact CommandLine.transformAll_eq_map _ _ files (BarrelCache.isCurrent_empty _)

/-- A session on a ring of files, with the barrel that they make up redirected. -/
def ring : Session Fixture :=
  .start Fixture.ring [⟨"/b"⟩] .relative

/-- Steps that succeed and fail. -/
def ringSteps : List Step :=
  [.resolve ⟨"/b"⟩, .resolve ⟨"/c"⟩, .transform ⟨"/d.ts"⟩ "import d from './b'"]

theorem transform_eq_ring :
    ring.cache = .empty ∧ (∀ step ∈ ringSteps, step.isReading = true)
      ∧ (∀ step ∈ [Step.transformFile ⟨"/b/x.ts"⟩], step.isReading = true)
      ∧ ((ring.run ringSteps).step (.transform ⟨"/a.ts"⟩ "import { A } from './b'")).1
        = .transformed (.ok ⟨"import { Q as A } from './b/y';", true, 1, []⟩)
      ∧ ((ring.run [.transformFile ⟨"/b/x.ts"⟩]).step
          (.transform ⟨"/a.ts"⟩ "import { A } from './b'")).1
        = .transformed (.ok ⟨"import { Q as A } from './b/y';", true, 1, []⟩) := by
  have hempty : ring.cache = .empty := rfl
  have hearlier : ∀ step ∈ ringSteps, step.isReading = true := by decide
  have hothers : ∀ step ∈ [Step.transformFile ⟨"/b/x.ts"⟩], step.isReading = true := by decide
  have hfresh : ((ring.redirector.transform ring.files ⟨"/a.ts"⟩
      "import { A } from './b'").run.run .empty).1
        = .ok ⟨"import { Q as A } from './b/y';", true, 1, []⟩ := by
    decide +kernel
  obtain ⟨hsame, hfirst, -⟩ := transform_eq_of_isReading hempty hearlier hothers
    ⟨"/a.ts"⟩ "import { A } from './b'"
  rw [hfresh] at hfirst
  exact ⟨hempty, hearlier, hothers, hfirst, hsame.symm.trans hfirst⟩

end Session

end DirectImports
