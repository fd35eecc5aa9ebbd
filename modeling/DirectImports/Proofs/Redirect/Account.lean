import DirectImports.Proofs.Redirect.FixedPoint

/-!
# An account of every specifier

What redirecting does with a statement, case by case (`Redirector.AnswersFor`). A statement without
a target is left alone, and the files are not looked at. A specifier that binds the barrel as a
whole is refused before the barrel is flattened. Otherwise every specifier is accounted for, in
order (`Redirector.Accounts`): it becomes an import of its own if the barrel exports its name, and
a finding if not. So a binding is lost only together with a finding about it, and only where some
other binding of the statement is kept.

The answer without a target and the refusal are the same on every file system with the same working
directory (`target?_of_cwd`), which is all that they depend on.
-/

namespace DirectImports

/-! ## Specifiers and statements -/

/-- The kind of a specifier that binds a module as a whole. -/
def ImportSpecifier.wholeKind? : ImportSpecifier → Option String
  | .whole _ => some "default"
  | .star _ => some "namespace"
  | .named .. => none

/-- The names that a statement binds. -/
def ImportStatement.bindings (statement : ImportStatement) : List String :=
  statement.specifiers.map (·.binding)

namespace Redirector

/-- The finding about a name that a barrel does not export. -/
def droppedFinding (importer : Path) (source imported : String) : Diagnostic :=
  ⟨.unresolvedName, importer, "'" ++ imported ++ "' is not exported by barrel '" ++ source
    ++ "'; dropped from the import"⟩

/-- What becomes of specifiers, one after the other: each is an import of its own, or a finding. -/
inductive Accounts (redirector : Redirector) (barrel : Barrel) (importer dir : Path)
    (statement : ImportStatement) :
    List ImportSpecifier → List ImportStatement → List Diagnostic → Prop
  | nil : Accounts redirector barrel importer dir statement [] [] []
  | kept {imported binding : String} {isType : Bool} {record : ExportRecord}
      {rest : List ImportSpecifier} {replacements : List ImportStatement}
      {diagnostics : List Diagnostic} (hget : barrel.get? imported = some record)
      (hrest : Accounts redirector barrel importer dir statement rest replacements diagnostics) :
      Accounts redirector barrel importer dir statement (.named imported binding isType :: rest)
        (⟨redirector.sourceFor barrel record dir,
          [.named (record.sourceName.getD imported) binding isType], statement.typeOnly⟩
            :: replacements) diagnostics
  | dropped {imported binding : String} {isType : Bool} {rest : List ImportSpecifier}
      {replacements : List ImportStatement} {diagnostics : List Diagnostic}
      (hget : barrel.get? imported = none)
      (hrest : Accounts redirector barrel importer dir statement rest replacements diagnostics) :
      Accounts redirector barrel importer dir statement (.named imported binding isType :: rest)
        replacements (droppedFinding importer statement.source imported :: diagnostics)

/-- What redirecting answers for a statement. -/
structure AnswersFor (redirector : Redirector) (fs : FileSystem) (importer : Path)
    (statement : ImportStatement) (cache : BarrelCache) : Prop where
  /-- without a target nothing is done, whatever the files are -/
  untouched : redirector.target? fs importer statement.source = none →
    ∀ other : FileSystem, other.cwd = fs.cwd →
      (redirector.redirect other importer statement).run.run cache = (.ok ⟨.untouched, []⟩, cache)
  /-- an import of the barrel as a whole is refused, whatever the files are -/
  refused : ∀ target, redirector.target? fs importer statement.source = some target →
    statement.specifiers.filterMap (·.wholeKind?) ≠ [] →
      ∀ other : FileSystem, other.cwd = fs.cwd →
        (redirector.redirect other importer statement).run.run cache
          = (.error (.unsupportedShape statement.source importer
              (String.intercalate ", " (statement.specifiers.filterMap (·.wholeKind?)))), cache)
  /-- otherwise a barrel that cannot be flattened is the error -/
  failed : ∀ target, redirector.target? fs importer statement.source = some target →
    statement.specifiers.filterMap (·.wholeKind?) = [] →
      ∀ error after, (fs.flattenOnce target).run.run cache = (.error error, after) →
        (redirector.redirect fs importer statement).run.run cache = (.error (.barrel error), after)
  /-- and every specifier of an import from a flattened barrel is accounted for -/
  accounted : ∀ target, redirector.target? fs importer statement.source = some target →
    statement.specifiers.filterMap (·.wholeKind?) = [] →
      ∀ barrel after, (fs.flattenOnce target).run.run cache = (.ok barrel, after) →
        ∃ file dir replacements diagnostics, fs.absolute importer = .ok file
          ∧ file.parent? = some dir
          ∧ redirector.Accounts barrel importer dir statement statement.specifiers replacements
              diagnostics
          ∧ (redirector.redirect fs importer statement).run.run cache
            = (.ok ⟨if replacements = [] then .untouched else .replaced replacements, diagnostics⟩,
                after)
  /-- so that a binding is lost only with a finding about it, and only if another one is kept -/
  lost : ∀ replacements diagnostics after,
    (redirector.redirect fs importer statement).run.run cache
        = (.ok ⟨.replaced replacements, diagnostics⟩, after) →
      ∀ specifier ∈ statement.specifiers,
        specifier.binding ∉ replacements.flatMap (·.bindings) →
          ∃ imported isType, specifier = .named imported specifier.binding isType
            ∧ droppedFinding importer statement.source imported ∈ diagnostics
            ∧ ∃ other ∈ statement.specifiers, other.binding ∈ replacements.flatMap (·.bindings)

variable {redirector : Redirector} {fs other : FileSystem} {importer dir : Path} {barrel : Barrel}
  {statement : ImportStatement} {specifiers : List ImportSpecifier}
  {replacements : List ImportStatement} {diagnostics : List Diagnostic}

/-! ## What decides before the files are looked at -/

theorem absolute_of_cwd (h : other.cwd = fs.cwd) (path : Path) :
    other.absolute path = fs.absolute path := by
  unfold FileSystem.absolute
  rw [h]

/-- The target of a specifier depends on the working directory only. -/
theorem target?_of_cwd (h : other.cwd = fs.cwd) (importer : Path) (source : String) :
    redirector.target? other importer source = redirector.target? fs importer source := by
  unfold target?
  rw [absolute_of_cwd h]

/-- The kinds that are refused are those of the specifiers that bind a module as a whole. -/
theorem fullKinds_eq_filterMap (statement : ImportStatement) :
    fullKinds statement = statement.specifiers.filterMap (·.wholeKind?) := by
  unfold fullKinds
  induction statement.specifiers with
  | nil => rfl
  | cons specifier rest ih =>
    cases specifier with
    | named imported binding isType => exact ih
    | whole binding => exact congrArg ("default" :: ·) ih
    | star binding => exact congrArg ("namespace" :: ·) ih

/-! ## One specifier after the other -/

/-- If no specifier binds the barrel as a whole, collecting accounts for all of them. -/
theorem exists_accounts_foldl (redirector : Redirector) (barrel : Barrel) (importer dir : Path)
    (statement : ImportStatement) (h : specifiers.filterMap (·.wholeKind?) = [])
    (done : List ImportStatement × List Diagnostic) :
    ∃ replacements diagnostics,
      redirector.Accounts barrel importer dir statement specifiers replacements diagnostics
        ∧ specifiers.foldl (redirector.collect barrel importer dir statement) done
          = (done.1 ++ replacements, done.2 ++ diagnostics) := by
  induction specifiers generalizing done with
  | nil => exact ⟨[], [], .nil, by simp⟩
  | cons specifier rest ih =>
    cases specifier with
    | whole binding => cases h
    | star binding => cases h
    | named imported binding isType =>
      rw [List.foldl_cons]
      cases hget : barrel.get? imported with
      | some record =>
        simp only [collect, replace, hget]
        obtain ⟨replacements, diagnostics, haccounts, hfold⟩ := ih h _
        exact ⟨_, diagnostics, .kept hget haccounts, by rw [hfold]; simp [ExportRecord.importName]⟩
      | none =>
        simp only [collect, replace, hget]
        obtain ⟨replacements, diagnostics, haccounts, hfold⟩ := ih h _
        exact ⟨replacements, _, .dropped hget haccounts, by rw [hfold]; simp [droppedFinding]⟩

/-- The answer about a flattened barrel accounts for all specifiers. -/
theorem exists_accounts_redirection (redirector : Redirector) (barrel : Barrel)
    (importer dir : Path) (h : statement.specifiers.filterMap (·.wholeKind?) = []) :
    ∃ replacements diagnostics,
      redirector.Accounts barrel importer dir statement statement.specifiers replacements
          diagnostics
        ∧ redirector.redirection barrel importer dir statement
          = ⟨if replacements = [] then .untouched else .replaced replacements, diagnostics⟩ := by
  obtain ⟨replacements, diagnostics, haccounts, hfold⟩ :=
    exists_accounts_foldl redirector barrel importer dir statement h ([], [])
  refine ⟨replacements, diagnostics, haccounts, ?_⟩
  unfold redirection
  rw [hfold]
  cases replacements with
  | nil => rfl
  | cons first rest => simp

/-- A specifier is bound by an import of its own, or there is a finding about it. -/
theorem Accounts.bound_or_dropped
    (h : redirector.Accounts barrel importer dir statement specifiers replacements diagnostics)
    {specifier : ImportSpecifier} (hmem : specifier ∈ specifiers) :
    specifier.binding ∈ replacements.flatMap (·.bindings)
      ∨ ∃ imported isType, specifier = .named imported specifier.binding isType
          ∧ droppedFinding importer statement.source imported ∈ diagnostics := by
  induction h with
  | nil => cases hmem
  | kept _ _ ih =>
    rw [List.flatMap_cons]
    rcases List.mem_cons.mp hmem with rfl | hrest
    · exact Or.inl (List.mem_append_left _ List.mem_cons_self)
    · exact (ih hrest).imp_left (List.mem_append_right _)
  | @dropped imported binding isType _ _ _ _ _ ih =>
    rcases List.mem_cons.mp hmem with rfl | hrest
    · exact Or.inr ⟨imported, isType, rfl, List.mem_cons_self⟩
    · refine (ih hrest).imp_right ?_
      rintro ⟨found, foundType, heq, hfinding⟩
      exact ⟨found, foundType, heq, List.mem_cons_of_mem _ hfinding⟩

/-- If there are new imports, one of them binds what some specifier bound. -/
theorem Accounts.exists_bound
    (h : redirector.Accounts barrel importer dir statement specifiers replacements diagnostics)
    (hne : replacements ≠ []) :
    ∃ specifier ∈ specifiers, specifier.binding ∈ replacements.flatMap (·.bindings) := by
  induction h with
  | nil => exact absurd rfl hne
  | kept _ _ _ =>
    refine ⟨_, List.mem_cons_self, ?_⟩
    rw [List.flatMap_cons]
    exact List.mem_append_left _ List.mem_cons_self
  | dropped _ _ ih =>
    obtain ⟨specifier, hmem, hbound⟩ := ih hne
    exact ⟨specifier, List.mem_cons_of_mem _ hmem, hbound⟩

/-! ## Whole statements -/

/-- With a target and no specifier that is refused, the answer is that about the barrel. -/
theorem run_redirect_of_target? {target : Path}
    (htarget : redirector.target? fs importer statement.source = some target)
    (hnamed : statement.specifiers.filterMap (·.wholeKind?) = []) (cache : BarrelCache) :
    ∃ file dir, fs.absolute importer = .ok file ∧ file.parent? = some dir
      ∧ (redirector.redirect fs importer statement).run.run cache
        = match (fs.flattenOnce target).run.run cache with
          | (.ok barrel, after) =>
            (.ok (redirector.redirection barrel importer dir statement), after)
          | (.error error, after) => (.error (.barrel error), after) := by
  obtain ⟨file, dir, hfile, hparent, -⟩ := exists_of_target? htarget
  refine ⟨file, dir, hfile, hparent, ?_⟩
  rw [run_redirect, htarget, fullKinds_eq_filterMap, hnamed, hfile]
  cases hflatten : (fs.flattenOnce target).run.run cache with
  | mk result after =>
    cases result with
    | ok barrel => simp only [hflatten, hparent, Option.getD_some]
    | error error => simp only [hflatten]

/-- A statement that is replaced has no specifier that is refused. -/
theorem wholeKinds_of_redirect_eq_replaced {cache after : BarrelCache}
    (h : (redirector.redirect fs importer statement).run.run cache
      = (.ok ⟨.replaced replacements, diagnostics⟩, after)) :
    statement.specifiers.filterMap (·.wholeKind?) = [] := by
  obtain ⟨target, -, -, htarget, -⟩ := exists_of_redirect_eq_replaced h
  rw [run_redirect, htarget, fullKinds_eq_filterMap] at h
  cases hkinds : statement.specifiers.filterMap (·.wholeKind?) with
  | nil => rfl
  | cons kind kinds => rw [hkinds] at h; cases h

/-- Redirecting accounts for every specifier of a statement. -/
theorem answersFor_redirect (redirector : Redirector) (fs : FileSystem) (importer : Path)
    (statement : ImportStatement) (cache : BarrelCache) :
    redirector.AnswersFor fs importer statement cache where
  untouched := by
    intro hnone other hcwd
    refine run_redirect_of_target?_eq_none ?_ cache
    rw [target?_of_cwd hcwd, hnone]
  refused := by
    intro target htarget hwhole other hcwd
    rw [run_redirect, target?_of_cwd hcwd, htarget, fullKinds_eq_filterMap]
    cases hkinds : statement.specifiers.filterMap (·.wholeKind?) with
    | nil => exact absurd hkinds hwhole
    | cons kind kinds => rfl
  failed := by
    intro target htarget hnamed error after hflatten
    obtain ⟨file, dir, -, -, hrun⟩ := run_redirect_of_target? htarget hnamed cache
    rw [hrun, hflatten]
  accounted := by
    intro target htarget hnamed barrel after hflatten
    obtain ⟨file, dir, hfile, hparent, hrun⟩ := run_redirect_of_target? htarget hnamed cache
    obtain ⟨replacements, diagnostics, haccounts, hredirection⟩ :=
      exists_accounts_redirection redirector barrel importer dir hnamed
    refine ⟨file, dir, replacements, diagnostics, hfile, hparent, haccounts, ?_⟩
    simp only [hrun, hflatten, hredirection]
  lost := by
    intro replacements diagnostics after hrun specifier hmem hunbound
    have hnamed := wholeKinds_of_redirect_eq_replaced hrun
    obtain ⟨target, barrel, file, -, -, -, hredirection⟩ := exists_of_redirect_eq_replaced hrun
    obtain ⟨found, findings, haccounts, heq⟩ :=
      exists_accounts_redirection redirector barrel importer (file.parent?.getD ⟨""⟩) hnamed
    rw [heq] at hredirection
    by_cases hnil : found = []
    · rw [if_pos hnil] at hredirection
      cases hredirection
    · rw [if_neg hnil] at hredirection
      cases hredirection
      rcases haccounts.bound_or_dropped hmem with hbound | ⟨imported, isType, hnamed, hfinding⟩
      · exact absurd hbound hunbound
      · exact ⟨imported, isType, hnamed, hfinding, haccounts.exists_bound hnil⟩

/-- A name that the barrel exports, one that it does not, and the first one again. -/
def mixedImport : ImportStatement :=
  ⟨"./b", [.named "A" "X" false, .named "Missing" "L" false, .named "A" "Y" true], false⟩

theorem answersFor_redirect_mixedImport :
    ∃ replacements diagnostics after,
      (ring.redirect Fixture.ring.view ⟨"/a.ts"⟩ mixedImport).run.run .empty
          = (.ok ⟨.replaced replacements, diagnostics⟩, after)
        ∧ replacements = [⟨"./b/y", [.named "Q" "X" false], false⟩,
          ⟨"./b/y", [.named "Q" "Y" true], false⟩]
        ∧ "L" ∉ replacements.flatMap (·.bindings)
        ∧ droppedFinding ⟨"/a.ts"⟩ "./b" "Missing" ∈ diagnostics := by
  have hresult : ((ring.redirect Fixture.ring.view ⟨"/a.ts"⟩ mixedImport).run.run .empty).1
      = .ok ⟨.replaced [⟨"./b/y", [.named "Q" "X" false], false⟩,
          ⟨"./b/y", [.named "Q" "Y" true], false⟩],
        [droppedFinding ⟨"/a.ts"⟩ "./b" "Missing"]⟩ := by decide +kernel
  generalize hrun : (ring.redirect Fixture.ring.view ⟨"/a.ts"⟩ mixedImport).run.run .empty = run
    at hresult ⊢
  obtain ⟨result, after⟩ := run
  cases hresult
  refine ⟨_, _, after, rfl, rfl, by decide, ?_⟩
  obtain ⟨imported, isType, hspecifier, hfinding, -⟩ :=
    (answersFor_redirect ring Fixture.ring.view ⟨"/a.ts"⟩ mixedImport .empty).lost _ _ after hrun
      (.named "Missing" "L" false) (by decide) (by decide)
  cases hspecifier
  exact hfinding

end Redirector

end DirectImports
