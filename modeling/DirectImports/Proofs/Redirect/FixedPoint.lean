import DirectImports.Proofs.Cache
import DirectImports.Redirector

/-!
# Redirecting twice

An import of a barrel is replaced by imports of the modules that its records lead to, written from
the importing file or from the root. Either way the new specifier leads to the module's place
(`target?_sourceFor`), so redirecting it again finds exactly the barrel at that place.

A record may lead to a place that is a barrel itself, because `export { … } from` is recorded with
the module it names and not followed further. Redirecting settles an import in one go if and only
if none of its records does (`isSettled_iff_of_redirect`).
-/

namespace DirectImports

/-- The place that a record leads to: that of its segment, or of the index file without its
extension. A package has no place. -/
def Barrel.place? (barrel : Barrel) (record : ExportRecord) : Option Path :=
  if record.segment ≠ "" ∧ Specifier.isPath record.segment = false then none
  else if record.segment = "" then
    match barrel.rootStem? with
    | some stem => some (barrel.directory.joinDir stem)
    | none => some barrel.directory
  else some (barrel.directory.joinDir record.segment)

namespace Redirector

variable {redirector : Redirector} {fs : FileSystem} {importer dir file : Path} {barrel : Barrel}
  {cache after : BarrelCache} {statement : ImportStatement}

/-! ## Where new specifiers lead -/

/-- The target of a specifier that leads to a place is the barrel at that place. -/
theorem target?_of_joinDir (hfile : fs.absolute importer = .ok file)
    (hparent : file.parent? = some dir) {source : String} (hpath : Specifier.isPath source = true) :
    redirector.target? fs importer source
      = (some (dir.joinDir source)).filter redirector.isBarrel := by
  unfold target?
  rw [hpath, hfile]
  show (file.parent?.bind fun dir =>
    if redirector.isBarrel (dir.joinDir source) then some (dir.joinDir source) else none) = _
  rw [hparent]
  rfl

theorem target?_of_not_isPath {source : String} (h : Specifier.isPath source = false) :
    redirector.target? fs importer source = none := by
  unfold target?
  rw [h]
  rfl

/-- A target is the place of the specifier, seen from the directory of the importing file. -/
theorem exists_of_target? {source : String} {target : Path}
    (h : redirector.target? fs importer source = some target) :
    ∃ file dir, fs.absolute importer = .ok file ∧ file.parent? = some dir
      ∧ dir.joinDir source = target := by
  cases hpath : Specifier.isPath source with
  | false => rw [target?_of_not_isPath hpath] at h; cases h
  | true =>
    cases hfile : fs.absolute importer with
    | error error => unfold target? at h; rw [hpath, hfile] at h; cases h
    | ok file =>
      cases hparent : file.parent? with
      | none =>
        unfold target? at h
        rw [hpath, hfile] at h
        change (file.parent?.bind _) = _ at h
        rw [hparent] at h
        cases h
      | some dir =>
        rw [target?_of_joinDir hfile hparent hpath] at h
        exact ⟨file, dir, rfl, hparent, Option.some.inj (Option.filter_eq_some_iff.mp h).1⟩

/-- A target is one of the barrels, and a normal form if paths are made absolute. -/
theorem isBarrel_of_target? (hcwd : ∀ dir, fs.cwd = .ok dir → dir.isAbsolute = true)
    {source : String} {target : Path} (h : redirector.target? fs importer source = some target) :
    redirector.isBarrel target = true ∧ target.IsNormal := by
  obtain ⟨file, dir, hfile, hparent, hjoin⟩ := exists_of_target? h
  have hdir : dir.IsRooted := (FileSystem.isNormal_of_absolute hcwd hfile).isRooted.parent? hparent
  refine ⟨?_, ?_⟩
  · have hpath : Specifier.isPath source = true := by
      by_contra hnot
      rw [target?_of_not_isPath (by simpa using hnot)] at h
      cases h
    rw [target?_of_joinDir hfile hparent hpath, Option.filter_eq_some_iff] at h
    exact h.2
  · rw [← hjoin]
    exact Path.isNormal_joinDir hdir.isAbsolute source

theorem isBarrel_of_same {place other : Path} (h : place.Same other)
    (hbarrel : redirector.isBarrel place = true) : redirector.isBarrel other = true := by
  obtain ⟨known, hknown, hsame⟩ := List.any_eq_true.mp hbarrel
  have hplace : known.Same place := by simpa using hsame
  have hother : known.Same other := Eq.trans hplace h
  exact List.any_eq_true.mpr ⟨known, hknown, by simpa using hother⟩

/-- A place that is written down leads to itself. -/
theorem joinDir_write (hdir : dir.IsRooted) {place : Path} (hplace : place.isAbsolute = true)
    (style : SpecifierStyle) :
    Specifier.isPath (style.write dir place) = true
      ∧ dir.joinDir (style.write dir place) = place.clean := by
  cases style with
  | relative =>
    rw [SpecifierStyle.write]
    exact ⟨(Specifier.relative_spec hdir.isAbsolute hplace).1,
      Specifier.joinDir_relative hdir hplace⟩
  | absolute =>
    rw [SpecifierStyle.write]
    exact ⟨Specifier.isPath_of_not_isRelative (Path.not_isRelative_toSlash hplace),
      Specifier.joinDir_toSlash dir hplace⟩

/-- The target of a new specifier is the barrel at the place of its record. -/
theorem target?_sourceFor (hfile : fs.absolute importer = .ok file)
    (hparent : file.parent? = some dir) (hnormal : file.IsNormal)
    (hdirectory : barrel.directory.IsNormal) (record : ExportRecord) :
    redirector.target? fs importer (redirector.sourceFor barrel record dir)
      = (barrel.place? record).filter redirector.isBarrel := by
  have hwrite {place : Path} (hplace : place.isAbsolute = true) :
      redirector.target? fs importer (redirector.style.write dir place)
        = (some place.clean).filter redirector.isBarrel := by
    have hdir : dir.IsRooted := hnormal.isRooted.parent? hparent
    obtain ⟨hpath, hjoin⟩ := joinDir_write hdir hplace redirector.style
    rw [target?_of_joinDir hfile hparent hpath, hjoin]
  unfold sourceFor Barrel.place?
  by_cases hpackage : record.segment ≠ "" ∧ Specifier.isPath record.segment = false
  · rw [if_pos hpackage, if_pos hpackage]
    exact target?_of_not_isPath hpackage.2
  · rw [if_neg hpackage, if_neg hpackage]
    by_cases hempty : record.segment = ""
    · simp only [if_pos hempty]
      cases barrel.rootStem? with
      | none =>
        rw [hwrite hdirectory.1, hdirectory.2]
      | some stem => exact hwrite (Path.isAbsolute_join hdirectory.1 stem)
    · simp only [if_neg hempty]
      rw [hwrite (Path.isNormal_joinDir hdirectory.1 _).1, Path.clean_joinDir]

/-! ## Which imports come out -/

/-- The import of a name comes from a specifier. -/
def IsReplacement (redirector : Redirector) (barrel : Barrel) (importerDir : Path)
    (statement : ImportStatement) (specifier : ImportSpecifier) (replacement : ImportStatement) :
    Prop :=
  ∃ imported binding isType record, specifier = .named imported binding isType
    ∧ barrel.get? imported = some record
    ∧ replacement = ⟨redirector.sourceFor barrel record importerDir,
        [.named (record.importName imported) binding isType], statement.typeOnly⟩

/-- One specifier adds its import, if the barrel exports its name. -/
theorem mem_collect {importerDir : Path} {specifier : ImportSpecifier}
    {done : List ImportStatement × List Diagnostic} {replacement : ImportStatement} :
    replacement ∈ (redirector.collect barrel importer importerDir statement done specifier).1
      ↔ replacement ∈ done.1
        ∨ redirector.IsReplacement barrel importerDir statement specifier replacement := by
  cases specifier with
  | whole binding => simp [collect, IsReplacement]
  | star binding => simp [collect, IsReplacement]
  | named imported binding isType =>
    cases hget : barrel.get? imported with
    | none =>
      simp only [collect, replace, hget]
      refine ⟨Or.inl, ?_⟩
      rintro (hdone | ⟨_, _, _, _, heq, hrecord, -⟩)
      · exact hdone
      · cases heq
        rw [hget] at hrecord
        cases hrecord
    | some found =>
      simp only [collect, replace, hget, List.mem_append, List.mem_singleton]
      constructor
      · rintro (hdone | heq)
        · exact Or.inl hdone
        · exact Or.inr ⟨imported, binding, isType, found, rfl, hget, heq⟩
      · rintro (hdone | ⟨_, _, _, _, heq, hrecord, hreplacement⟩)
        · exact Or.inl hdone
        · cases heq
          rw [hget] at hrecord
          cases hrecord
          exact Or.inr hreplacement

/-- All specifiers add theirs. -/
theorem mem_foldl_collect {importerDir : Path} {specifiers : List ImportSpecifier}
    {done : List ImportStatement × List Diagnostic} {replacement : ImportStatement} :
    replacement ∈ (specifiers.foldl
        (redirector.collect barrel importer importerDir statement) done).1
      ↔ replacement ∈ done.1 ∨ ∃ specifier ∈ specifiers,
          redirector.IsReplacement barrel importerDir statement specifier replacement := by
  induction specifiers generalizing done with
  | nil => simp
  | cons specifier rest ih =>
    rw [List.foldl_cons, ih, mem_collect, List.exists_mem_cons_iff, or_assoc]

/-- The imports that replace a statement. -/
theorem mem_replacements {importerDir : Path} {replacements : List ImportStatement}
    {diagnostics : List Diagnostic}
    (h : redirector.redirection barrel importer importerDir statement
      = ⟨.replaced replacements, diagnostics⟩) {replacement : ImportStatement} :
    replacement ∈ replacements ↔ ∃ specifier ∈ statement.specifiers,
      redirector.IsReplacement barrel importerDir statement specifier replacement := by
  have hreplacements : replacements = (statement.specifiers.foldl
      (redirector.collect barrel importer importerDir statement) ([], [])).1 := by
    unfold redirection at h
    simp only at h
    split at h
    · cases h
    · cases h
      rfl
  rw [hreplacements, mem_foldl_collect]
  simp

/-! ## Running -/

/-- What redirecting does with a cache. -/
theorem run_redirect (redirector : Redirector) (fs : FileSystem) (importer : Path)
    (statement : ImportStatement) (cache : BarrelCache) :
    (redirector.redirect fs importer statement).run.run cache
      = match redirector.target? fs importer statement.source with
        | none => (.ok .untouched, cache)
        | some target =>
          match fullKinds statement with
          | [] =>
            match (fs.flattenOnce target).run.run cache with
            | (.ok barrel, after) =>
              match fs.absolute importer with
              | .ok file => (.ok (redirector.redirection barrel importer
                  (file.parent?.getD ⟨""⟩) statement), after)
              | .error error => (.error (.barrel error), after)
            | (.error error, after) => (.error (.barrel error), after)
          | kinds => (.error (.unsupportedShape statement.source importer
              (String.intercalate ", " kinds)), cache) := by
  unfold redirect
  cases redirector.target? fs importer statement.source with
  | none => rfl
  | some target =>
    simp only
    cases fullKinds statement with
    | cons kind kinds => rfl
    | nil =>
      simp only
      rw [run_run_bind, run_run_adapt]
      cases (fs.flattenOnce target).run.run cache with
      | mk result after =>
        cases result with
        | error error => rfl
        | ok barrel => cases fs.absolute importer <;> rfl

/-- If a statement is replaced, it has a target, whose barrel was flattened. -/
theorem exists_of_redirect_eq_replaced {replacements : List ImportStatement}
    {diagnostics : List Diagnostic}
    (h : (redirector.redirect fs importer statement).run.run cache
      = (.ok ⟨.replaced replacements, diagnostics⟩, after)) :
    ∃ target barrel file, redirector.target? fs importer statement.source = some target
      ∧ (fs.flattenOnce target).run.run cache = (.ok barrel, after)
      ∧ fs.absolute importer = .ok file
      ∧ redirector.redirection barrel importer (file.parent?.getD ⟨""⟩) statement
        = ⟨.replaced replacements, diagnostics⟩ := by
  rw [run_redirect] at h
  split at h
  · cases h
  · next target htarget =>
    split at h
    · split at h
      · next barrel found hflatten =>
        split at h
        · next file hfile =>
          obtain ⟨hresult, rfl⟩ := Prod.mk.inj h
          exact ⟨target, barrel, file, htarget, hflatten, hfile, Except.ok.inj hresult⟩
        · cases h
      · cases h
    · cases h

/-- A statement without a target is left alone. -/
theorem run_redirect_of_target?_eq_none
    (h : redirector.target? fs importer statement.source = none) (cache : BarrelCache) :
    (redirector.redirect fs importer statement).run.run cache = (.ok .untouched, cache) := by
  rw [run_redirect, h]

/-! ## Settled imports -/

/-- If a statement is replaced, redirecting its replacements leaves all of them alone if and only
if no record of an imported name leads to a barrel. -/
theorem isSettled_iff_of_redirect (redirector : Redirector)
    (himporter : ∀ file, fs.absolute importer = .ok file → file.isAbsolute = true)
    (hcache : cache.IsFiled) {replacements : List ImportStatement}
    {diagnostics : List Diagnostic}
    (h : (redirector.redirect fs importer statement).run.run cache
      = (.ok ⟨.replaced replacements, diagnostics⟩, after)) :
    ∃ target barrel, redirector.target? fs importer statement.source = some target
      ∧ (fs.flattenOnce target).run.run cache = (.ok barrel, after) ∧ after.IsFiled
      ∧ ((∀ replacement ∈ replacements,
            redirector.target? fs importer replacement.source = none
              ∧ ∀ later, (redirector.redirect fs importer replacement).run.run later
                = (.ok .untouched, later))
          ↔ ∀ imported binding isType record,
              .named imported binding isType ∈ statement.specifiers →
                barrel.get? imported = some record →
                  ∀ place ∈ barrel.place? record, redirector.isBarrel place = false) := by
  obtain ⟨target, barrel, file, htarget, hflatten, hfile, hredirection⟩ :=
    exists_of_redirect_eq_replaced h
  obtain ⟨found, dir, hfound, hparent, hjoin⟩ := exists_of_target? htarget
  cases hfile.symm.trans hfound
  have hnormal : file.IsNormal := ⟨himporter file hfile, FileSystem.clean_of_absolute hfile⟩
  -- all places are absolute, so that written from the importer they lead back to themselves
  have hdir : dir.IsRooted := hnormal.isRooted.parent? hparent
  have htargetNormal : target.IsNormal := by
    rw [← hjoin]
    exact Path.isNormal_joinDir hdir.isAbsolute _
  obtain ⟨hafter, hdirectory⟩ := hcache.flattenOnce htargetNormal hflatten
  rw [← hdirectory] at htargetNormal
  rw [hparent] at hredirection
  have hnone (record : ExportRecord) :
      redirector.target? fs importer (redirector.sourceFor barrel record dir) = none
        ↔ ∀ place ∈ barrel.place? record, redirector.isBarrel place = false := by
    rw [target?_sourceFor hfile hparent hnormal htargetNormal, Option.filter_eq_none_iff]
    simp
  refine ⟨target, barrel, htarget, hflatten, hafter, ?_, ?_⟩
  · intro hsettled imported binding isType record hmem hget place hplace
    have hreplacement := (mem_replacements hredirection).mpr
      ⟨_, hmem, imported, binding, isType, record, rfl, hget, rfl⟩
    exact (hnone record).mp (hsettled _ hreplacement).1 place hplace
  · intro hplaces replacement hreplacement
    obtain ⟨specifier, hmem, imported, binding, isType, record, rfl, hget, rfl⟩ :=
      (mem_replacements hredirection).mp hreplacement
    have htarget := (hnone record).mpr (hplaces imported binding isType record hmem hget)
    exact ⟨htarget, run_redirect_of_target?_eq_none htarget⟩

end Redirector

/-! ## One barrel and two -/

/-- A barrel of its own. -/
def Redirector.ring : Redirector :=
  .make Fixture.ring.view [⟨"/b"⟩] .relative

theorem Redirector.isSettled_ring :
    (∀ file, Fixture.ring.view.absolute ⟨"/a.ts"⟩ = .ok file → file.isAbsolute = true)
      ∧ BarrelCache.empty.IsFiled
      ∧ ∃ after, (ring.redirect Fixture.ring.view ⟨"/a.ts"⟩
            ⟨"./b", [.named "A" "A" false], false⟩).run.run .empty
          = (.ok ⟨.replaced [⟨"./b/y", [.named "Q" "A" false], false⟩], []⟩, after)
        ∧ ring.target? Fixture.ring.view ⟨"/a.ts"⟩ "./b/y" = none := by
  have himporter : ∀ file, Fixture.ring.view.absolute ⟨"/a.ts"⟩ = .ok file →
      file.isAbsolute = true := by
    intro file hfile
    rw [FileSystem.absolute_of_isNormal (by decide)] at hfile
    cases hfile
    decide
  have hresult : ((ring.redirect Fixture.ring.view ⟨"/a.ts"⟩
      ⟨"./b", [.named "A" "A" false], false⟩).run.run .empty).1
        = .ok ⟨.replaced [⟨"./b/y", [.named "Q" "A" false], false⟩], []⟩ := by decide +kernel
  generalize hrun : (ring.redirect Fixture.ring.view ⟨"/a.ts"⟩
      ⟨"./b", [.named "A" "A" false], false⟩).run.run .empty = run at hresult ⊢
  obtain ⟨result, after⟩ := run
  cases hresult
  refine ⟨himporter, BarrelCache.isFiled_empty, after, rfl, ?_⟩
  obtain ⟨target, barrel, htarget, hflatten, -, hsettled⟩ :=
    isSettled_iff_of_redirect ring himporter BarrelCache.isFiled_empty hrun
  -- the barrel is the one that the fixture holds
  have hknown : ring.target? Fixture.ring.view ⟨"/a.ts"⟩ "./b" = some ⟨"/b"⟩ := by decide +kernel
  cases hknown.symm.trans htarget
  cases FileSystem.served_of_run hflatten with
  | known _ hcached => cases hcached
  | flattened hdirectory _ hbarrel =>
    rw [FileSystem.absolute_of_isNormal (by decide)] at hdirectory
    cases hdirectory
    cases Fixture.flatten_ring.symm.trans hbarrel
    refine (hsettled.mpr ?_ _ List.mem_cons_self).1
    intro imported binding isType record hmem hget place hplace
    cases List.mem_singleton.mp hmem
    cases hget
    cases hplace
    decide +kernel

/-- A barrel that takes a name from another barrel. -/
def Fixture.twoBarrels : Fixture :=
  ((Fixture.empty (some ⟨"/"⟩)).add ⟨"/b/index.ts"⟩ (.file "export { X } from '../c';")).add
    ⟨"/c/index.ts"⟩ (.file "export const X = 1;")

/-- Two barrels, one of which takes a name from the other. -/
def Redirector.twoBarrels : Redirector :=
  .make Fixture.twoBarrels.view [⟨"/b"⟩, ⟨"/c"⟩] .relative

/-- An import that is redirected to a second barrel is not settled. -/
theorem Redirector.not_isSettled_twoBarrels :
    ((twoBarrels.redirect Fixture.twoBarrels.view ⟨"/a.ts"⟩
          ⟨"./b", [.named "X" "X" false], false⟩).run.run .empty).1
        = .ok ⟨.replaced [⟨"./c", [.named "X" "X" false], false⟩], []⟩
      ∧ twoBarrels.target? Fixture.twoBarrels.view ⟨"/a.ts"⟩ "./c" = some ⟨"/c"⟩ := by
  decide +kernel

end DirectImports
