import DirectImports.Proofs.Redirect.FixedPoint
import Mathlib.Data.List.Forall2

/-!
# Two styles of specifiers

New imports are written from the importing file or from the root. Both styles are ways to write one
place: seen from the importing file, either specifier leads to it (`sameModule_sourceFor`). Which
statement has a target, what fails and which names are dropped does not depend on the style, so the
answers of the two styles go along specifier by specifier (`foldl_collect_styles`) and differ in the
specifiers of the new imports at most (`sameAnswer_of_styles`).
-/

namespace DirectImports

namespace Redirector

variable {fs : FileSystem} {importer dir : Path} {barrels : List Path} {barrel : Barrel}
  {statement : ImportStatement}

/-! ## What may differ -/

/-- Two specifiers in a file of `dir` name the module of a record: both are the package, or both
lead to one place, which is that of the segment unless it is empty. -/
inductive SameModule (barrel : Barrel) (dir : Path) (record : ExportRecord) :
    String → String → Prop
  | package (hsegment : record.segment ≠ "") (hpackage : Specifier.isPath record.segment = false) :
      SameModule barrel dir record record.segment record.segment
  | place {first second : String}
      (hsegment : record.segment = "" ∨ Specifier.isPath record.segment = true)
      (hfirst : Specifier.isPath first = true) (hsecond : Specifier.isPath second = true)
      (hsame : dir.joinDir first = dir.joinDir second)
      (hplace : record.segment ≠ "" →
        dir.joinDir first = barrel.directory.joinDir record.segment) :
      SameModule barrel dir record first second

/-- Two imports take the place of one specifier and name the same module. -/
structure SameImport (barrel : Barrel) (dir : Path) (statement first second : ImportStatement) :
    Prop where
  specifiers_eq : first.specifiers = second.specifiers
  typeOnly_eq : first.typeOnly = second.typeOnly
  sameModule : ∃ imported binding isType record,
    .named imported binding isType ∈ statement.specifiers ∧ barrel.get? imported = some record
      ∧ first.specifiers = [.named (record.importName imported) binding isType]
      ∧ SameModule barrel dir record first.source second.source

/-- Two answers to a statement differ in the specifiers of its new imports at most. -/
inductive SameAnswer (redirector : Redirector) (fs : FileSystem) (importer : Path)
    (statement : ImportStatement) (cache : BarrelCache) :
    Except RedirectError Redirection → Except RedirectError Redirection → Prop
  | failed (error : RedirectError) :
      SameAnswer redirector fs importer statement cache (.error error) (.error error)
  | untouched (diagnostics : List Diagnostic) :
      SameAnswer redirector fs importer statement cache
        (.ok ⟨.untouched, diagnostics⟩) (.ok ⟨.untouched, diagnostics⟩)
  | replaced {target file dir : Path} {barrel : Barrel} {firsts seconds : List ImportStatement}
      (htarget : redirector.target? fs importer statement.source = some target)
      (hbarrel : ((fs.flattenOnce target).run.run cache).1 = .ok barrel)
      (hfile : fs.absolute importer = .ok file) (hparent : file.parent? = some dir)
      (himports : List.Forall₂ (SameImport barrel dir statement) firsts seconds)
      (diagnostics : List Diagnostic) :
      SameAnswer redirector fs importer statement cache
        (.ok ⟨.replaced firsts, diagnostics⟩) (.ok ⟨.replaced seconds, diagnostics⟩)

/-! ## One specifier -/

/-- A place that is written in two styles is the same module, if it is where the record leads. -/
theorem sameModule_write (hdir : dir.IsRooted) {place : Path} (hplace : place.isAbsolute = true)
    {record : ExportRecord}
    (hsegment : record.segment = "" ∨ Specifier.isPath record.segment = true)
    (hrecord : record.segment ≠ "" → place.clean = barrel.directory.joinDir record.segment)
    (style other : SpecifierStyle) :
    SameModule barrel dir record (style.write dir place) (other.write dir place) := by
  obtain ⟨hfirst, hfirstPlace⟩ := joinDir_write hdir hplace style
  obtain ⟨hsecond, hsecondPlace⟩ := joinDir_write hdir hplace other
  refine .place hsegment hfirst hsecond ?_ fun hne => ?_
  · rw [hfirstPlace, hsecondPlace]
  · rw [hfirstPlace, hrecord hne]

/-- The specifiers that two styles write for a record name the same module. -/
theorem sameModule_sourceFor (hdir : dir.IsRooted) (hdirectory : barrel.directory.IsNormal)
    (record : ExportRecord) (style other : SpecifierStyle) :
    SameModule barrel dir record (sourceFor ⟨barrels, style⟩ barrel record dir)
      (sourceFor ⟨barrels, other⟩ barrel record dir) := by
  unfold sourceFor
  by_cases hpackage : record.segment ≠ "" ∧ Specifier.isPath record.segment = false
  · rw [if_pos hpackage, if_pos hpackage]
    exact .package hpackage.1 hpackage.2
  · rw [if_neg hpackage, if_neg hpackage]
    by_cases hempty : record.segment = ""
    · -- the index file, whatever place that is
      simp only [if_pos hempty]
      have hrecord (place : Path) (hne : record.segment ≠ "") :
          place.clean = barrel.directory.joinDir record.segment := absurd hempty hne
      cases barrel.rootStem? with
      | none => exact sameModule_write hdir hdirectory.1 (Or.inl hempty) (hrecord _) style other
      | some stem =>
        have habsolute := Path.isAbsolute_join hdirectory.1 stem
        exact sameModule_write hdir habsolute (Or.inl hempty) (hrecord _) style other
    · simp only [if_neg hempty]
      have hpath : Specifier.isPath record.segment = true := by simpa [hempty] using hpackage
      have habsolute := (Path.isNormal_joinDir hdirectory.1 record.segment).1
      exact sameModule_write hdir habsolute (Or.inr hpath)
        (fun _ => Path.clean_joinDir _ _) style other

/-- What came of some specifiers in two styles. -/
structure SameProgress (barrel : Barrel) (dir : Path) (statement : ImportStatement)
    (first second : List ImportStatement × List Diagnostic) : Prop where
  imports : List.Forall₂ (SameImport barrel dir statement) first.1 second.1
  diagnostics_eq : first.2 = second.2

/-- One more specifier becomes an import in both styles, or is dropped in both. -/
theorem SameProgress.collect (hdir : dir.IsRooted) (hdirectory : barrel.directory.IsNormal)
    {style other : SpecifierStyle} {first second : List ImportStatement × List Diagnostic}
    (h : SameProgress barrel dir statement first second) {specifier : ImportSpecifier}
    (hmem : specifier ∈ statement.specifiers) :
    SameProgress barrel dir statement
      (collect ⟨barrels, style⟩ barrel importer dir statement first specifier)
      (collect ⟨barrels, other⟩ barrel importer dir statement second specifier) := by
  cases specifier with
  | whole binding => exact h
  | star binding => exact h
  | named imported binding isType =>
    cases hget : barrel.get? imported with
    | none =>
      simp only [Redirector.collect, replace, hget]
      refine ⟨h.imports, ?_⟩
      rw [h.diagnostics_eq]
    | some record =>
      simp only [Redirector.collect, replace, hget]
      refine ⟨List.rel_append h.imports (.cons ?_ .nil), h.diagnostics_eq⟩
      exact ⟨rfl, rfl, imported, binding, isType, record, hmem, hget, rfl,
        sameModule_sourceFor hdir hdirectory record style other⟩

/-! ## A whole statement -/

/-- All specifiers go along in the two styles. -/
theorem foldl_collect_styles (hdir : dir.IsRooted) (hdirectory : barrel.directory.IsNormal)
    {style other : SpecifierStyle} {specifiers : List ImportSpecifier}
    (hsub : specifiers ⊆ statement.specifiers)
    {first second : List ImportStatement × List Diagnostic}
    (h : SameProgress barrel dir statement first second) :
    SameProgress barrel dir statement
      (specifiers.foldl (collect ⟨barrels, style⟩ barrel importer dir statement) first)
      (specifiers.foldl (collect ⟨barrels, other⟩ barrel importer dir statement) second) := by
  induction specifiers generalizing first second with
  | nil => exact h
  | cons specifier rest ih =>
    obtain ⟨hmem, hrest⟩ := List.cons_subset.mp hsub
    exact ih hrest (h.collect hdir hdirectory hmem)

/-- Two styles leave a statement alone, or replace it by as many imports of the same modules. -/
theorem redirection_styles (hdir : dir.IsRooted) (hdirectory : barrel.directory.IsNormal)
    (barrels : List Path) (importer : Path) (statement : ImportStatement)
    (style other : SpecifierStyle) :
    (∃ diagnostics,
        redirection ⟨barrels, style⟩ barrel importer dir statement = ⟨.untouched, diagnostics⟩
          ∧ redirection ⟨barrels, other⟩ barrel importer dir statement = ⟨.untouched, diagnostics⟩)
      ∨ ∃ firsts seconds diagnostics,
        redirection ⟨barrels, style⟩ barrel importer dir statement = ⟨.replaced firsts, diagnostics⟩
          ∧ redirection ⟨barrels, other⟩ barrel importer dir statement
              = ⟨.replaced seconds, diagnostics⟩
          ∧ List.Forall₂ (SameImport barrel dir statement) firsts seconds := by
  have hprogress : SameProgress barrel dir statement
      (statement.specifiers.foldl (collect ⟨barrels, style⟩ barrel importer dir statement) ([], []))
      (statement.specifiers.foldl (collect ⟨barrels, other⟩ barrel importer dir statement)
        ([], [])) :=
    foldl_collect_styles hdir hdirectory (List.Subset.refl _) ⟨.nil, rfl⟩
  unfold redirection
  generalize statement.specifiers.foldl (collect ⟨barrels, style⟩ barrel importer dir statement)
    ([], []) = first at hprogress ⊢
  generalize statement.specifiers.foldl (collect ⟨barrels, other⟩ barrel importer dir statement)
    ([], []) = second at hprogress ⊢
  obtain ⟨firsts, diagnostics⟩ := first
  obtain ⟨seconds, found⟩ := second
  obtain ⟨himports, hdiagnostics⟩ := hprogress
  cases hdiagnostics
  cases himports with
  | nil => exact Or.inl ⟨diagnostics, rfl, rfl⟩
  | cons himport hrest => exact Or.inr ⟨_, _, diagnostics, rfl, rfl, .cons himport hrest⟩

/-- A redirector answers every statement in the same way in both styles, but for how the modules of
new imports are written, and remembers the same barrels; for the way from a directory to a place
leads to that place. -/
theorem sameAnswer_of_styles (hcwd : ∀ cwd, fs.cwd = .ok cwd → cwd.isAbsolute = true)
    {cache : BarrelCache} (hcache : cache.IsFiled) (barrels : List Path) (importer : Path)
    (statement : ImportStatement) :
    (∃ relative absolute after,
        ((make fs barrels .relative).redirect fs importer statement).run.run cache
            = (relative, after)
          ∧ ((make fs barrels .absolute).redirect fs importer statement).run.run cache
            = (absolute, after)
          ∧ SameAnswer (make fs barrels .relative) fs importer statement cache relative absolute)
      ∧ ∀ dir place : Path, dir.IsNormal → place.isAbsolute = true →
          dir.joinDir (Specifier.relative dir place) = place.clean := by
  refine ⟨?_, fun dir place hdir hplace => Specifier.joinDir_relative hdir.isRooted hplace⟩
  -- the two redirectors have the same barrels, and so the same target
  have hsame : (make fs barrels .absolute).target? fs importer statement.source
      = (make fs barrels .relative).target? fs importer statement.source := rfl
  rw [run_redirect, run_redirect, hsame]
  cases htarget : (make fs barrels .relative).target? fs importer statement.source with
  | none => exact ⟨_, _, _, rfl, rfl, .untouched []⟩
  | some target =>
    cases fullKinds statement with
    | cons kind kinds => exact ⟨_, _, _, rfl, rfl, .failed _⟩
    | nil =>
      obtain ⟨file, dir, hfile, hparent, hjoin⟩ := exists_of_target? htarget
      have hnormal : file.IsNormal := FileSystem.isNormal_of_absolute hcwd hfile
      have hdir : dir.IsRooted := hnormal.isRooted.parent? hparent
      have htargetNormal : target.IsNormal := by
        rw [← hjoin]
        exact Path.isNormal_joinDir hdir.isAbsolute _
      dsimp only
      cases hflatten : (fs.flattenOnce target).run.run cache with
      | mk result after =>
        cases result with
        | error error =>
          exact ⟨.error (.barrel error), .error (.barrel error), after, rfl, rfl, .failed _⟩
        | ok barrel =>
          have hdirectory : barrel.directory.IsNormal := by
            rw [(hcache.flattenOnce htargetNormal hflatten).2]
            exact htargetNormal
          have hbarrel : ((fs.flattenOnce target).run.run cache).1 = .ok barrel := by rw [hflatten]
          dsimp only
          rw [hfile]
          dsimp only
          rw [hparent, Option.getD_some]
          rcases redirection_styles hdir hdirectory (make fs barrels .relative).barrels importer
              statement .relative .absolute with ⟨diagnostics, hfirst, hsecond⟩
            | ⟨firsts, seconds, diagnostics, hfirst, hsecond, himports⟩
          · exact ⟨_, _, after, congrArg (fun answer => (Except.ok answer, after)) hfirst,
              congrArg (fun answer => (Except.ok answer, after)) hsecond, .untouched diagnostics⟩
          · exact ⟨_, _, after, congrArg (fun answer => (Except.ok answer, after)) hfirst,
              congrArg (fun answer => (Except.ok answer, after)) hsecond,
              .replaced htarget hbarrel hfile hparent himports diagnostics⟩

end Redirector

/-! ## A barrel with records of all kinds -/

/-- A barrel that exports a name of a package, one of another module and one of its own. -/
def Fixture.mixed : Fixture :=
  (Fixture.empty (some ⟨"/"⟩)).add ⟨"/lib/b/index.ts"⟩
    (.file "export { P } from 'pkg'; export { Q as A } from '../x/y'; export const D = 1;")

/-- An import of all its names and of one that it does not export. -/
def ImportStatement.mixed : ImportStatement :=
  ⟨"../lib/b",
    [.named "P" "P" false, .named "A" "B" true, .named "M" "M" false, .named "D" "D" false], false⟩

/-- What becomes of it if modules are written in the given way. -/
def Redirection.mixed (y index : String) : Redirection :=
  ⟨.replaced [⟨"pkg", [.named "P" "P" false], false⟩, ⟨y, [.named "Q" "B" true], false⟩,
      ⟨index, [.named "D" "D" false], false⟩],
    [⟨.unresolvedName, ⟨"app/a.ts"⟩,
      "'M' is not exported by barrel '../lib/b'; dropped from the import"⟩]⟩

theorem Redirector.sameAnswer_mixed :
    (∀ cwd, Fixture.mixed.view.cwd = .ok cwd → cwd.isAbsolute = true)
      ∧ BarrelCache.empty.IsFiled
      ∧ SameAnswer (make Fixture.mixed.view [⟨"lib/b"⟩] .relative) Fixture.mixed.view ⟨"app/a.ts"⟩
          .mixed .empty (.ok (.mixed "../lib/x/y" "../lib/b/index"))
          (.ok (.mixed "/lib/x/y" "/lib/b/index"))
      ∧ (⟨"/app"⟩ : Path).joinDir (Specifier.relative ⟨"/app"⟩ ⟨"/lib/./x/y"⟩) = ⟨"/lib/x/y"⟩ := by
  have hcwd : ∀ cwd, Fixture.mixed.view.cwd = .ok cwd → cwd.isAbsolute = true := by
    intro cwd h
    cases h
    decide
  have hfirst : (((make Fixture.mixed.view [⟨"lib/b"⟩] .relative).redirect Fixture.mixed.view
      ⟨"app/a.ts"⟩ .mixed).run.run .empty).1 = .ok (.mixed "../lib/x/y" "../lib/b/index") := by
    decide +kernel
  have hsecond : (((make Fixture.mixed.view [⟨"lib/b"⟩] .absolute).redirect Fixture.mixed.view
      ⟨"app/a.ts"⟩ .mixed).run.run .empty).1 = .ok (.mixed "/lib/x/y" "/lib/b/index") := by
    decide +kernel
  obtain ⟨⟨relative, absolute, after, hrelative, habsolute, hsame⟩, hway⟩ :=
    sameAnswer_of_styles hcwd BarrelCache.isFiled_empty [⟨"lib/b"⟩] ⟨"app/a.ts"⟩ .mixed
  rw [hrelative] at hfirst
  rw [habsolute] at hsecond
  cases hfirst
  cases hsecond
  refine ⟨hcwd, BarrelCache.isFiled_empty, hsame, ?_⟩
  rw [hway _ _ (by decide) (by decide)]
  decide

end DirectImports
