import DirectImports.Proofs.Redirect.FixedPoint
import DirectImports.Proofs.Session.Independence
import DirectImports.Proofs.Transform.Imports
import Mathlib.Data.Finset.Card

/-!
# What a session remembers, and since when

Barrels get into the cache by calls of `flattenOnce`, which a step makes directly, or on behalf of
the imports that it redirects (`Session.attempts`). The calls since the cache was last cleared are
the session's history. They lead from an empty cache to the one that the session has
(`Calls.history`), and from that everything is told: a directory is remembered if and only if a
call for it succeeded, with the barrel that the first of these found in the files of its time
(`Session.remembersHistory_run`).
-/

namespace DirectImports

/-! ## Calls -/

/-- A call for the barrel of a path: the files at the time, the path, and the answer. -/
structure Attempt where
  files : FileSystem
  path : Path
  result : Except BarrelError Barrel

/-- The barrel that a call gave for a directory: none if the call was for another directory, or
failed. -/
def Attempt.barrel? (attempt : Attempt) (directory : Path) : Option Barrel :=
  match attempt.files.absolute attempt.path, attempt.result with
  | .ok found, .ok barrel => if found.Same directory then some barrel else none
  | _, _ => none

theorem Attempt.barrel?_eq_some {attempt : Attempt} {directory : Path} {barrel : Barrel}
    (h : attempt.barrel? directory = some barrel) :
    ∃ found, attempt.files.absolute attempt.path = .ok found ∧ found.Same directory
      ∧ attempt.result = .ok barrel := by
  unfold barrel? at h
  split at h
  · next found barrel habsolute hresult =>
    split at h
    · next hsame =>
      cases h
      exact ⟨found, habsolute, hsame, hresult⟩
    · cases h
  · cases h

/-- Calls made one after the other, the first with one cache and the last leaving another. -/
inductive Calls : BarrelCache → List Attempt → BarrelCache → Prop
  | nil {cache : BarrelCache} : Calls cache [] cache
  | cons {cache between after : BarrelCache} {attempt : Attempt} {rest : List Attempt}
      (hcall : (attempt.files.flattenOnce attempt.path).run.run cache = (attempt.result, between))
      (hrest : Calls between rest after) : Calls cache (attempt :: rest) after

namespace BarrelCache

variable {cache after : BarrelCache} {fs : FileSystem} {path directory : Path}
  {result : Except BarrelError Barrel}

/-- No directory has two slots. -/
def IsDistinct (cache : BarrelCache) : Prop :=
  (cache.entries.map (·.1)).Pairwise (¬·.Same ·)

theorem IsDistinct.reserve (h : cache.IsDistinct) (directory : Path) :
    (cache.reserve directory).IsDistinct := by
  unfold BarrelCache.reserve
  split
  · exact h
  · next hnone =>
    refine List.pairwise_cons.mpr ⟨fun key hkey hsame => ?_, h⟩
    obtain ⟨entry, hentry, rfl⟩ := List.mem_map.mp hkey
    have hslot : cache.slot? directory = none := by simpa using hnone
    exact slot?_eq_none_iff.mp hslot entry hentry (Eq.symm hsame)

/-- Filling a slot makes no other. -/
theorem IsDistinct.fill (h : cache.IsDistinct) (directory : Path) (barrel : Barrel) :
    (cache.fill directory barrel).IsDistinct := by
  have hkeys : (cache.fill directory barrel).entries.map (·.1) = cache.entries.map (·.1) := by
    unfold BarrelCache.fill
    rw [List.map_map]
    refine List.map_congr_left fun entry _ => ?_
    show (if entry.1.Same directory then (entry.1, some barrel) else entry).1 = entry.1
    split <;> rfl
  unfold IsDistinct
  rw [hkeys]
  exact h

theorem IsDistinct.of_served (h : cache.IsDistinct) (hserved : fs.Served path cache result after) :
    after.IsDistinct := by
  cases hserved with
  | placeless => exact h
  | known => exact h
  | flattened => exact (h.reserve _).fill _ _
  | failed => exact h.reserve _

/-- Where no directory has two slots, its barrel is the one in its slot. -/
theorem IsDistinct.get?_of_mem (h : cache.IsDistinct) {key : Path} {slot : Option Barrel}
    (hmem : (key, slot) ∈ cache.entries) : cache.get? key = slot := by
  obtain ⟨entries⟩ := cache
  induction entries with
  | nil => cases hmem
  | cons entry rest ih =>
    obtain ⟨hfirst, hrest⟩ := List.pairwise_cons.mp h
    rw [get?, slot?_cons]
    rcases List.mem_cons.mp hmem with rfl | hin
    · rw [if_pos (show key.Same key from rfl)]
      rfl
    · rw [if_neg (hfirst key (List.mem_map_of_mem hin))]
      exact ih hrest hin

/-- The directories that are remembered are those of the filled slots. -/
theorem isSome_get?_iff (hfiled : cache.IsFiled) (hdistinct : cache.IsDistinct)
    (hnormal : directory.IsNormal) :
    (cache.get? directory).isSome ↔ directory ∈ cache.filled.map (·.1) := by
  constructor
  · intro hsome
    obtain ⟨barrel, hget⟩ := Option.isSome_iff_exists.mp hsome
    obtain ⟨key, hentry, hsame⟩ := exists_of_get? hget
    have heq : key = directory := (hfiled _ hentry).1.eq_of_same hnormal hsame
    rw [heq] at hentry
    exact List.mem_map.mpr ⟨_, List.mem_filter.mpr ⟨hentry, rfl⟩, rfl⟩
  · intro hmem
    obtain ⟨entry, hentry, rfl⟩ := List.mem_map.mp hmem
    obtain ⟨hin, hsome⟩ := List.mem_filter.mp hentry
    rw [hdistinct.get?_of_mem hin]
    exact hsome

/-- The directories of the filled slots differ. -/
theorem IsDistinct.nodup_filled (h : cache.IsDistinct) : (cache.filled.map (·.1)).Nodup := by
  have hsub : (cache.filled.map (·.1)).Sublist (cache.entries.map (·.1)) :=
    List.filter_sublist.map _
  exact (h.sublist hsub).imp fun hnot heq => hnot (congrArg Path.components heq)

end BarrelCache

namespace Calls

variable {cache between after : BarrelCache} {attempts later : List Attempt} {key : Path}
  {barrel : Barrel}

theorem append (h : Calls cache attempts between) (hlater : Calls between later after) :
    Calls cache (attempts ++ later) after := by
  induction h with
  | nil => exact hlater
  | cons hcall hrest ih => exact .cons hcall (ih hlater)

theorem exists_of_append (h : Calls cache (attempts ++ later) after) :
    ∃ between, Calls cache attempts between ∧ Calls between later after := by
  induction attempts generalizing cache with
  | nil => exact ⟨cache, .nil, h⟩
  | cons attempt rest ih =>
    cases h with
    | cons hcall hrest =>
      obtain ⟨between, hfront, hback⟩ := ih hrest
      exact ⟨between, .cons hcall hfront, hback⟩

/-- One call adds its barrel unless there is one. -/
theorem get?_of_call {attempt : Attempt}
    (h : (attempt.files.flattenOnce attempt.path).run.run cache = (attempt.result, after))
    (key : Path) : after.get? key = (cache.get? key).or (attempt.barrel? key) := by
  obtain ⟨files, path, result⟩ := attempt
  have hserved := FileSystem.served_of_run h
  unfold Attempt.barrel?
  dsimp only at hserved ⊢
  cases hserved with
  | placeless => simp
  | @known directory barrel habsolute hget =>
    rw [habsolute]
    by_cases hsame : directory.Same key
    · rw [← BarrelCache.get?_of_same hsame, hget]
      rfl
    · simp [hsame]
  | @flattened directory barrel habsolute hget =>
    rw [habsolute, BarrelCache.get?_fill_reserve]
    by_cases hsame : directory.Same key
    · rw [← BarrelCache.get?_of_same hsame, hget]
      simp [hsame]
    · simp [hsame]
  | failed => simp [BarrelCache.get?_reserve]

/-- What was remembered stays, and of the calls the first one that succeeded counts. -/
theorem get?_eq (h : Calls cache attempts after) (key : Path) :
    after.get? key = (cache.get? key).or (attempts.findSome? (·.barrel? key)) := by
  induction h with
  | nil => simp
  | cons hcall hrest ih =>
    rw [ih, get?_of_call hcall, Option.or_assoc, List.findSome?_cons]
    cases Attempt.barrel? _ key <;> rfl

/-- The barrel of the first call that succeeded is the one in the files of its time. -/
theorem flatten_of_first {attempt : Attempt}
    (h : Calls .empty (attempts ++ attempt :: later) after)
    (hfirst : ∀ call ∈ attempts, call.barrel? key = none)
    (hbarrel : attempt.barrel? key = some barrel) :
    ∃ directory, attempt.files.absolute attempt.path = .ok directory ∧ directory.Same key
      ∧ attempt.files.flatten directory = .ok barrel := by
  obtain ⟨between, hfront, hback⟩ := h.exists_of_append
  obtain ⟨found, habsolute, hsame, hresult⟩ := Attempt.barrel?_eq_some hbarrel
  have hnone : between.get? found = none := by
    rw [BarrelCache.get?_of_same hsame, hfront.get?_eq, List.findSome?_eq_none_iff.mpr hfirst]
    rfl
  cases hback with
  | cons hcall hrest =>
    rw [hresult] at hcall
    cases FileSystem.served_of_run hcall with
    | known hdirectory hget =>
      cases habsolute.symm.trans hdirectory
      rw [hnone] at hget
      cases hget
    | flattened hdirectory _ hflatten =>
      cases habsolute.symm.trans hdirectory
      exact ⟨found, habsolute, hsame, hflatten⟩

/-- No call gives a directory a second slot. -/
theorem isDistinct (h : Calls cache attempts after) (hdistinct : cache.IsDistinct) :
    after.IsDistinct := by
  induction h with
  | nil => exact hdistinct
  | cons hcall hrest ih => exact ih (hdistinct.of_served (FileSystem.served_of_run hcall))

/-- If paths are made absolute, every barrel is filed under its directory. -/
theorem isFiled (h : Calls cache attempts after)
    (habs : ∀ attempt ∈ attempts, ∀ dir, attempt.files.cwd = .ok dir → dir.isAbsolute = true)
    (hfiled : cache.IsFiled) : after.IsFiled := by
  induction h with
  | nil => exact hfiled
  | cons hcall hrest ih =>
    obtain ⟨hfirst, hothers⟩ := List.forall_mem_cons.mp habs
    refine ih hothers (hfiled.of_served (FileSystem.served_of_run hcall) ?_)
    exact fun _ habsolute => FileSystem.isNormal_of_absolute hfirst habsolute

end Calls

/-! ## The calls of a step -/

/-- The statement that is handed to a redirector. -/
def Source.Item.handed? (item : Source.Item) : Option ImportStatement :=
  item.import?.map (·.2)

namespace Redirector

variable {redirector : Redirector} {fs : FileSystem} {importer : Path} {cache after : BarrelCache}

/-- The call made for one statement: for its barrel, unless it imports that as a whole. -/
def attempt? (redirector : Redirector) (fs : FileSystem) (importer : Path)
    (statement : ImportStatement) (cache : BarrelCache) : Option Attempt :=
  match fullKinds statement with
  | [] => (redirector.target? fs importer statement.source).map fun target =>
      ⟨fs, target, ((fs.flattenOnce target).run.run cache).1⟩
  | _ => none

/-- The calls made for statements one after the other, up to the first that fails. -/
def attempts (redirector : Redirector) (fs : FileSystem) (importer : Path) :
    List ImportStatement → BarrelCache → List Attempt
  | [], _ => []
  | statement :: rest, cache =>
    (redirector.attempt? fs importer statement cache).toList
      ++ match (redirector.redirect fs importer statement).run.run cache with
        | (.ok _, after) => redirector.attempts fs importer rest after
        | (.error _, _) => []

/-- The calls made for the imports of a text. -/
def attemptsIn (redirector : Redirector) (fs : FileSystem) (path : Path) (source : String)
    (cache : BarrelCache) : List Attempt :=
  match Source.readItems (.ofPath path) source with
  | .error _ => []
  | .ok items =>
    redirector.attempts fs path (items.filterMap Source.Item.handed?) cache

/-- Redirecting a statement changes the cache by the call for it. -/
theorem calls_redirect (redirector : Redirector) (fs : FileSystem) (importer : Path)
    (statement : ImportStatement) (cache : BarrelCache) :
    Calls cache (redirector.attempt? fs importer statement cache).toList
      ((redirector.redirect fs importer statement).run.run cache).2 := by
  rw [run_redirect, attempt?]
  cases redirector.target? fs importer statement.source with
  | none => cases fullKinds statement <;> exact .nil
  | some target =>
    cases fullKinds statement with
    | cons kind kinds => exact .nil
    | nil =>
      simp only [Option.map_some, Option.toList_some]
      cases hcall : (fs.flattenOnce target).run.run cache with
      | mk result after =>
        refine .cons hcall ?_
        cases result with
        | error error => exact .nil
        | ok barrel => cases fs.absolute importer <;> exact .nil

/-- An import that is refused, or whose barrel cannot be flattened, shows in no directory. -/
theorem get?_of_redirect_eq_error {statement : ImportStatement} {error : RedirectError}
    (h : (redirector.redirect fs importer statement).run.run cache = (.error error, after))
    (key : Path) : after.get? key = cache.get? key := by
  rw [run_redirect] at h
  split at h
  · cases h
  · next target htarget =>
    split at h
    · split at h
      · -- a target was found, so the importing file has a place and its redirection is given
        obtain ⟨file, -, hfile, -⟩ := exists_of_target? htarget
        rw [hfile] at h
        cases h
      · next failure between hcall =>
        cases h
        exact (FileSystem.served_of_run hcall).get?_of_error key
    · cases h
      rfl

/-- Dealing with statements changes the cache by the calls for their imports. -/
theorem calls_editItems (redirector : Redirector) (fs : FileSystem) (path : Path)
    (items : List Source.Item) (done : List Edit × List Diagnostic) (cache : BarrelCache) :
    Calls cache
      (redirector.attempts fs path (items.filterMap Source.Item.handed?) cache)
      ((items.foldlM (redirector.editItem fs path) done).run.run cache).2 := by
  induction items generalizing done cache with
  | nil => exact .nil
  | cons item rest ih =>
    rw [List.foldlM_cons, run_run_bind, run_editItem]
    cases himport : item.import? with
    | none =>
      have hnone : item.handed? = none := by rw [Source.Item.handed?, himport]; rfl
      rw [List.filterMap_cons_none hnone]
      exact ih done cache
    | some found =>
      obtain ⟨declaration, statement⟩ := found
      have hstatement : item.handed? = some statement := by rw [Source.Item.handed?, himport]; rfl
      rw [List.filterMap_cons_some hstatement, attempts]
      have hcall := redirector.calls_redirect fs path statement cache
      simp only
      generalize (redirector.redirect fs path statement).run.run cache = run at hcall ⊢
      obtain ⟨result, between⟩ := run
      cases result with
      | error error => exact hcall.append .nil
      | ok redirection => exact hcall.append (ih _ between)

theorem calls_transform (redirector : Redirector) (fs : FileSystem) (path : Path) (source : String)
    (cache : BarrelCache) :
    Calls cache (redirector.attemptsIn fs path source cache)
      ((redirector.transform fs path source).run.run cache).2 := by
  unfold transform attemptsIn
  cases Source.readItems (.ofPath path) source with
  | error faults => exact .nil
  | ok items =>
    simp only
    rw [run_run_bind, run_run_adapt]
    have hcalls := redirector.calls_editItems fs path items ([], []) cache
    generalize (items.foldlM (redirector.editItem fs path) ([], [])).run.run cache = run
      at hcalls ⊢
    obtain ⟨result, after⟩ := run
    cases result <;> exact hcalls

/-- Every call for a statement is for a barrel that is redirected, seen from the importing file. -/
theorem target?_of_mem_attempts {statements : List ImportStatement} {attempt : Attempt}
    (h : attempt ∈ redirector.attempts fs importer statements cache) :
    attempt.files = fs ∧ ∃ source, redirector.target? fs importer source = some attempt.path := by
  induction statements generalizing cache with
  | nil => cases h
  | cons statement rest ih =>
    rw [attempts] at h
    rcases List.mem_append.mp h with hfirst | hrest
    · rw [Option.mem_toList, attempt?] at hfirst
      split at hfirst
      · obtain ⟨target, htarget, rfl⟩ := Option.map_eq_some_iff.mp hfirst
        exact ⟨rfl, statement.source, htarget⟩
      · cases hfirst
    · split at hrest
      · exact ih hrest
      · cases hrest

theorem target?_of_mem_attemptsIn {path : Path} {source : String} {attempt : Attempt}
    (h : attempt ∈ redirector.attemptsIn fs path source cache) :
    attempt.files = fs ∧ ∃ source, redirector.target? fs path source = some attempt.path := by
  unfold attemptsIn at h
  split at h
  · cases h
  · exact target?_of_mem_attempts h

end Redirector

namespace Session

variable {σ : Type} [Store σ] {session : Session σ}

/-- The calls that a step makes. -/
def attempts (session : Session σ) : Step → List Attempt
  | .resolve path =>
    [⟨session.files, path, ((session.files.flattenOnce path).run.run session.cache).1⟩]
  | .redirect importer statement =>
    session.redirector.attempts session.files importer [statement] session.cache
  | .transform path source =>
    session.redirector.attemptsIn session.files path source session.cache
  | .transformFile path =>
    match session.files.read path with
    | .ok source => session.redirector.attemptsIn session.files path source session.cache
    | .error _ => []
  | .flatten _ | .clear | .write .. | .remove _ => []

/-- The calls of a step lead to the cache that it leaves, unless it clears that. -/
theorem calls_step (session : Session σ) {step : Step} (h : step ≠ .clear) :
    Calls session.cache (session.attempts step) (session.step step).2.cache := by
  cases step with
  | resolve path => exact .cons rfl .nil
  | flatten path => exact .nil
  | redirect importer statement =>
    show Calls _ (Redirector.attempts _ _ _ [statement] _) _
    have hcall := session.redirector.calls_redirect session.files importer statement session.cache
    have hone : session.redirector.attempts session.files importer [statement] session.cache
        = (session.redirector.attempt? session.files importer statement session.cache).toList := by
      rw [Redirector.attempts]
      split <;> exact List.append_nil _
    rw [hone]
    exact hcall
  | transform path source => exact session.redirector.calls_transform _ path source _
  | transformFile path =>
    simp only [attempts, Session.step, remembering, Redirector.transformFile]
    cases session.files.read path with
    | ok source => exact session.redirector.calls_transform _ path source _
    | error cause => exact .nil
  | clear => exact absurd rfl h
  | write path text =>
    simp only [attempts, Session.step]
    split <;> exact .nil
  | remove path => exact .nil

/-- The calls since the cache was last cleared, after those given. -/
def historyAfter (given : List Attempt) (session : Session σ) : List Step → List Attempt
  | [] => given
  | step :: rest =>
    historyAfter (if step = .clear then [] else given ++ session.attempts step)
      (session.step step).2 rest

/-- The calls since the cache was last cleared, or since the session began. -/
def history (session : Session σ) (steps : List Step) : List Attempt :=
  historyAfter [] session steps

/-- The history leads from an empty cache to the one that the session has. -/
theorem calls_historyAfter {given : List Attempt} (h : Calls .empty given session.cache)
    (steps : List Step) :
    Calls .empty (historyAfter given session steps) (session.run steps).cache := by
  induction steps generalizing session given with
  | nil => exact h
  | cons step rest ih =>
    refine ih ?_
    by_cases hclear : step = .clear
    · subst hclear
      exact .nil
    · rw [if_neg hclear]
      exact h.append (session.calls_step hclear)

/-- Whatever holds of the calls of every step holds of the history. -/
theorem forall_mem_historyAfter {P : Attempt → Prop} {given : List Attempt}
    (hgiven : ∀ attempt ∈ given, P attempt) {steps : List Step}
    (hsteps : ∀ before step, before ++ [step] <+: steps →
      ∀ attempt ∈ (session.run before).attempts step, P attempt) :
    ∀ attempt ∈ historyAfter given session steps, P attempt := by
  induction steps generalizing session given with
  | nil => exact hgiven
  | cons step rest ih =>
    refine ih ?_ ?_
    · intro attempt hattempt
      split at hattempt
      · cases hattempt
      · rcases List.mem_append.mp hattempt with hmem | hmem
        · exact hgiven attempt hmem
        · exact hsteps [] step ⟨rest, rfl⟩ attempt hmem
    · intro before later hbefore
      exact hsteps (step :: before) later (List.cons_prefix_cons.mpr ⟨rfl, hbefore⟩)

/-- Every call of a step reads the files of the session. -/
theorem files_of_mem_attempts {step : Step} {attempt : Attempt}
    (h : attempt ∈ session.attempts step) : attempt.files = session.files := by
  cases step with
  | resolve path => exact congrArg Attempt.files (List.mem_singleton.mp h)
  | redirect importer statement => exact (Redirector.target?_of_mem_attempts h).1
  | transform path source => exact (Redirector.target?_of_mem_attemptsIn h).1
  | transformFile path =>
    simp only [attempts] at h
    split at h
    · exact (Redirector.target?_of_mem_attemptsIn h).1
    · cases h
  | _ => cases h

/-! ## Steps that ask for configured barrels only, and steps that change nothing -/

/-- The step redirects imports and does nothing else. -/
def Step.isRedirecting : Step → Bool
  | .redirect .. | .transform .. | .transformFile _ => true
  | _ => false

theorem target?_of_mem_attempts {step : Step} (hstep : step.isRedirecting = true)
    {attempt : Attempt} (h : attempt ∈ session.attempts step) :
    ∃ importer source,
      session.redirector.target? session.files importer source = some attempt.path := by
  cases step with
  | redirect importer statement => exact ⟨importer, (Redirector.target?_of_mem_attempts h).2⟩
  | transform path source => exact ⟨path, (Redirector.target?_of_mem_attemptsIn h).2⟩
  | transformFile path =>
    simp only [attempts] at h
    split at h
    · exact ⟨path, (Redirector.target?_of_mem_attemptsIn h).2⟩
    · cases h
  | _ => cases hstep

/-- The step with its answer is one that remembers nothing: it found no barrel, flattened one
without the cache, failed to redirect an import, or changed the files. -/
def Step.IsIdle : Step → Answer → Prop
  | .resolve _, .barrel (.error _) => True
  | .flatten _, _ => True
  | .redirect .., .redirection (.error _) => True
  | .write .., _ => True
  | .remove _, _ => True
  | _, _ => False

/-- Such a step may leave an empty slot, but every directory leads where it led. -/
theorem get?_step_of_isIdle {step : Step} (h : step.IsIdle (session.step step).1) (key : Path) :
    (session.step step).2.cache.get? key = session.cache.get? key := by
  cases step with
  | resolve path =>
    simp only [Session.step, remembering] at h ⊢
    cases hrun : (session.files.flattenOnce path).run.run session.cache with
    | mk result after =>
      rw [hrun] at h
      cases result with
      | error error => exact (FileSystem.served_of_run hrun).get?_of_error key
      | ok barrel => cases h
  | flatten path => rfl
  | redirect importer statement =>
    simp only [Session.step, remembering] at h ⊢
    cases hrun : (session.redirector.redirect session.files importer statement).run.run
        session.cache with
    | mk result after =>
      rw [hrun] at h
      cases result with
      | error error => exact Redirector.get?_of_redirect_eq_error hrun key
      | ok redirection => cases h
  | write path text =>
    simp only [Session.step]
    split <;> rfl
  | remove path => rfl
  | _ => cases h

/-! ## Sessions remember their history -/

/-- The cache of a session that began with nothing remembered is told by its history. -/
structure RemembersHistory (session : Session σ) (steps : List Step) : Prop where
  /-- a directory is remembered if and only if a call for it succeeded since the last clearing -/
  isSome_get?_iff : ∀ key, ((session.run steps).cache.get? key).isSome
    ↔ ∃ attempt ∈ session.history steps, (attempt.barrel? key).isSome
  /-- its barrel is what flattening gave in the files at the time of the first such success -/
  first_of_get? : ∀ key barrel, (session.run steps).cache.get? key = some barrel →
    ∃ earlier attempt later directory, session.history steps = earlier ++ attempt :: later
      ∧ (∀ call ∈ earlier, call.barrel? key = none) ∧ attempt.result = .ok barrel
      ∧ attempt.files.absolute attempt.path = .ok directory ∧ directory.Same key
      ∧ attempt.files.flatten directory = .ok barrel ∧ barrel.directory = directory
  /-- a next step that remembers nothing leaves every directory as it is -/
  get?_step : ∀ step : Step, step.IsIdle ((session.run steps).step step).1 →
    ∀ key, ((session.run steps).step step).2.cache.get? key = (session.run steps).cache.get? key
  /-- the size is the number of directories for which a call succeeded -/
  exists_keys : ∃ keys : Finset Path,
    (∀ key, key ∈ keys
      ↔ key.IsNormal ∧ ∃ attempt ∈ session.history steps, (attempt.barrel? key).isSome)
    ∧ (session.run steps).cache.size = keys.card
  /-- redirecting alone remembers no directory but the configured barrels -/
  isBarrel_of_isRedirecting : (∀ step ∈ steps, step.isRedirecting = true) →
    ∀ key, ((session.run steps).cache.get? key).isSome → session.redirector.isBarrel key = true

/-- The history leads to the cache from nothing. -/
theorem calls_history (hempty : session.cache = .empty) (steps : List Step) :
    Calls .empty (session.history steps) (session.run steps).cache :=
  calls_historyAfter (by rw [hempty]; exact .nil) steps

theorem isSome_get?_run (hempty : session.cache = .empty) (steps : List Step) (key : Path) :
    ((session.run steps).cache.get? key).isSome
      ↔ ∃ attempt ∈ session.history steps, (attempt.barrel? key).isSome := by
  have hnone : BarrelCache.empty.get? key = none := rfl
  rw [(calls_history hempty steps).get?_eq, hnone, Option.none_or, List.findSome?_isSome_iff]

/-- The working directory was absolute whenever a call was made. -/
theorem isAbsolute_cwd_of_mem_history {steps : List Step}
    (hcwd : ∀ before, before <+: steps →
      ∀ dir, (session.run before).files.cwd = .ok dir → dir.isAbsolute = true) :
    ∀ attempt ∈ session.history steps,
      ∀ dir, attempt.files.cwd = .ok dir → dir.isAbsolute = true := by
  apply forall_mem_historyAfter
  · simp
  · intro before step hbefore attempt hattempt
    rw [files_of_mem_attempts hattempt]
    exact hcwd before ((List.prefix_append before [step]).trans hbefore)

/-- If only imports were redirected, calls were made for configured barrels only. -/
theorem isBarrel_of_mem_history {steps : List Step}
    (hcwd : ∀ before, before <+: steps →
      ∀ dir, (session.run before).files.cwd = .ok dir → dir.isAbsolute = true)
    (hsteps : ∀ step ∈ steps, step.isRedirecting = true) :
    ∀ attempt ∈ session.history steps,
      session.redirector.isBarrel attempt.path = true ∧ attempt.path.IsNormal := by
  apply forall_mem_historyAfter
  · simp
  · intro before step hbefore attempt hattempt
    have hstep : step ∈ steps := hbefore.subset (by simp)
    obtain ⟨importer, source, htarget⟩ := target?_of_mem_attempts (hsteps step hstep) hattempt
    rw [← session.redirector_run before]
    exact Redirector.isBarrel_of_target?
      (hcwd before ((List.prefix_append before [step]).trans hbefore)) htarget

/-- At every point of every run, the cache of a session is told by the calls since it was last
cleared. -/
theorem remembersHistory_run (hempty : session.cache = .empty) {steps : List Step}
    (hcwd : ∀ before, before <+: steps →
      ∀ dir, (session.run before).files.cwd = .ok dir → dir.isAbsolute = true) :
    session.RemembersHistory steps := by
  have hcalls := calls_history hempty steps
  have hfiled := hcalls.isFiled (isAbsolute_cwd_of_mem_history hcwd) BarrelCache.isFiled_empty
  have hdistinct := hcalls.isDistinct List.Pairwise.nil
  refine ⟨isSome_get?_run hempty steps, ?_, ?_, ?_, ?_⟩
  · intro key barrel hget
    have hnone : BarrelCache.empty.get? key = none := rfl
    rw [hcalls.get?_eq, hnone, Option.none_or, List.findSome?_eq_some_iff] at hget
    obtain ⟨earlier, attempt, later, hsplit, hbarrel, hearlier⟩ := hget
    rw [hsplit] at hcalls
    obtain ⟨directory, habsolute, hsame, hflatten⟩ := hcalls.flatten_of_first hearlier hbarrel
    obtain ⟨_, -, -, hresult⟩ := Attempt.barrel?_eq_some hbarrel
    have hmem : attempt ∈ session.history steps := by rw [hsplit]; simp
    have hnormal := FileSystem.isNormal_of_absolute
      (isAbsolute_cwd_of_mem_history hcwd attempt hmem) habsolute
    exact ⟨earlier, attempt, later, directory, hsplit, hearlier, hresult, habsolute, hsame,
      hflatten, FileSystem.directory_of_flatten hnormal hflatten⟩
  · exact fun step hidle => get?_step_of_isIdle hidle
  · refine ⟨((session.run steps).cache.filled.map (·.1)).toFinset, fun key => ?_, ?_⟩
    · rw [List.mem_toFinset, ← isSome_get?_run hempty]
      constructor
      · intro hkey
        obtain ⟨entry, hentry, heq⟩ := List.mem_map.mp hkey
        have hnormal : key.IsNormal := heq ▸ (hfiled entry (List.mem_of_mem_filter hentry)).1
        exact ⟨hnormal, (BarrelCache.isSome_get?_iff hfiled hdistinct hnormal).mpr hkey⟩
      · rintro ⟨hnormal, hsome⟩
        exact (BarrelCache.isSome_get?_iff hfiled hdistinct hnormal).mp hsome
    · rw [List.toFinset_card_of_nodup hdistinct.nodup_filled, List.length_map]
      rfl
  · intro hsteps key hsome
    obtain ⟨attempt, hmem, hbarrel⟩ := (isSome_get?_run hempty steps key).mp hsome
    obtain ⟨barrel, hbarrel⟩ := Option.isSome_iff_exists.mp hbarrel
    obtain ⟨directory, habsolute, hsame, -⟩ := Attempt.barrel?_eq_some hbarrel
    obtain ⟨hconfigured, hnormal⟩ := isBarrel_of_mem_history hcwd hsteps attempt hmem
    rw [FileSystem.absolute_of_isNormal hnormal] at habsolute
    cases habsolute
    exact Redirector.isBarrel_of_same hsame hconfigured

/-- The working directory of a fixture stays where it is. -/
theorem cwd_run (session : Session Fixture) (steps : List Step) :
    (session.run steps).store.cwd = session.store.cwd := by
  induction steps generalizing session with
  | nil => rfl
  | cons step rest ih =>
    refine (ih _).trans ?_
    cases step with
    | write path text => simp only [Session.step, Store.write]
    | remove path => rfl
    | _ => exact congrArg Fixture.cwd (session.store_step rfl)

/-- A call that fails, one with another spelling of the barrel's directory, and a change to the
barrel that nobody notices. Two slots are left, one of them empty. -/
def staleSteps : List Step :=
  [.resolve ⟨"/c"⟩, .resolve ⟨"./c/../b/"⟩, .write ⟨"/b/y.ts"⟩ "export const R = 1;",
    .resolve ⟨"/b"⟩]

theorem remembersHistory_ring :
    ring.cache = .empty
      ∧ (∀ before, before <+: staleSteps →
          ∀ dir, (ring.run before).files.cwd = .ok dir → dir.isAbsolute = true)
      ∧ ring.RemembersHistory staleSteps
      ∧ (∃ attempt ∈ ring.history staleSteps, (attempt.barrel? ⟨"/b"⟩).isSome)
      ∧ (ring.run staleSteps).cache.entries.length = 2
      ∧ (ring.run staleSteps).cache.size = 1 := by
  have hempty : ring.cache = .empty := rfl
  have hcwd : ∀ before, before <+: staleSteps →
      ∀ dir, (ring.run before).files.cwd = .ok dir → dir.isAbsolute = true := by
    intro before _ dir hdir
    have hstore : (ring.run before).store.cwd = some ⟨"/"⟩ := ring.cwd_run before
    change (ring.run before).store.view.cwd = .ok dir at hdir
    rw [Fixture.view, hstore] at hdir
    cases hdir
    decide
  have hhistory := remembersHistory_run hempty hcwd
  have hremembered : ((ring.run staleSteps).cache.get? ⟨"/b"⟩).isSome := by decide +kernel
  refine ⟨hempty, hcwd, hhistory, (hhistory.isSome_get?_iff ⟨"/b"⟩).mp hremembered, ?_⟩
  decide +kernel

end Session

end DirectImports
