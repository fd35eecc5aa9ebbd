import DirectImports.Proofs.Candidates
import DirectImports.Proofs.Path.Entry
import DirectImports.Proofs.Redirect.FixedPoint

/-!
# Imports of a barrel's own file

A name that a barrel's index file defines itself is imported from that file, whose extension is
left out. What remains of the file's name is looked up again by rules of its own: what stands at
the shortened path comes first, and then the files with that name and some extension, in the order
of their extensions. So the import need not lead back to the index file.

`FileSystem.StemLeadsTo` says when it does. For a file named `index` with a known extension this
comes down to nothing else standing at `index` (`stemLeadsTo_index_iff`); for any other index file
it also takes that no file differing from it in the extension precedes it.
-/

namespace DirectImports

theorem Path.fileStem?_join_name {dir : Path} {name : String} (h : (Component.name name).IsStep) :
    (dir.join name).fileStem? = some (Lookup.stemOf name) := by
  rw [fileStem?, fileName?_join_name h]
  rfl

/-! ## Where a shortened name leads -/

namespace FileSystem

open Lookup

variable {fs : FileSystem} {dir : Path} {entries : List String} {entry : String}

/-- Of the files in a directory that differ from it in the extension only, the file comes first. -/
def IsFirstSibling (fs : FileSystem) (dir : Path) (entry : String) : Prop :=
  (extensionAfter? (stemOf entry) entry).isSome = true
    ∧ ∀ entries, fs.list dir = .ok entries → ∀ other ∈ entries,
      (extensionAfter? (stemOf entry) other).isSome = true → fs.isFile (dir.join other) = true →
        siblingKey (stemOf entry) entry ≤ siblingKey (stemOf entry) other

/-- The name of a directory's index file leads back to it without its extension: what is left
leads to the directory itself, or nothing was left out, or nothing else stands there and of the
files that could be meant the index file comes first. -/
def StemLeadsTo (fs : FileSystem) (dir : Path) (entry : String) : Prop :=
  dir.joinDir (stemOf entry) = dir
    ∨ (stemOf entry = entry ∧ fs.isDirectory (dir.join entry) = false)
    ∨ ((Component.name (stemOf entry)).IsStep ∧ fs.isAbsent (dir.join (stemOf entry)) = true
      ∧ fs.IsFirstSibling dir entry)

/-- The index file of a directory is the least candidate of those it lists. -/
theorem exists_index_of_locate (hdir : fs.isDirectory dir = true) {file : Path}
    (h : fs.locate dir = .ok file) :
    ∃ entries entry, fs.list dir = .ok entries ∧ fs.indexFile? dir entries = some entry
      ∧ file = dir.join entry := by
  unfold isDirectory at hdir
  unfold locate at h
  split at hdir
  · next metadata hmetadata =>
    rw [hmetadata] at h
    simp only [hdir, if_true] at h
    unfold locateIndex at h
    split at h
    · next entries hlist =>
      split at h
      · next entry hindex =>
        cases h
        exact ⟨entries, entry, hlist, hindex, rfl⟩
      · cases h
    · cases h
  · cases hdir

/-- An index file is a file that the directory lists. -/
theorem mem_of_indexFile? (h : fs.indexFile? dir entries = some entry) :
    entry ∈ entries ∧ fs.isFile (dir.join entry) = true := by
  have hmem := List.mem_filter.mp (mem_of_least? h)
  exact ⟨hmem.1, (Bool.and_eq_true_iff.mp hmem.2).2⟩

/-- A missing name leads to the first file that has it and some extension. -/
theorem locateSibling_eq_ok_iff (hdir : dir.IsNormal) (hfs : fs.IsRegular)
    (hlist : fs.list dir = .ok entries) (hentry : entry ∈ entries) {base : String}
    (hbase : (Component.name base).IsStep) :
    fs.locateSibling (dir.join base) = .ok (dir.join entry)
      ↔ least? (siblingKey base) (entries.filter fun entry =>
          (extensionAfter? base entry).isSome && fs.isFile (dir.join entry)) = some entry := by
  have hplain := hfs.isStep_of_list dir entries hlist
  unfold locateSibling
  rw [Path.fileName?_join_name hbase, Path.parent?_join_name hdir hbase]
  simp only [hlist]
  cases hleast : least? (siblingKey base) (entries.filter fun entry =>
      (extensionAfter? base entry).isSome && fs.isFile (dir.join entry)) with
  | none => simp
  | some found =>
    have hfound := hplain found (List.mem_filter.mp (mem_of_least? hleast)).1
    constructor
    · intro h
      rw [Path.join_name_injective hfound (hplain entry hentry) (Except.ok.inj h)]
    · intro h
      cases h
      rfl

/-- The index file is the one that a missing stem leads to if and only if it is the first of
those with that stem. -/
theorem locateSibling_stemOf_iff (hdir : dir.IsNormal) (hfs : fs.IsRegular)
    (hlist : fs.list dir = .ok entries) (hentry : entry ∈ entries)
    (hfile : fs.isFile (dir.join entry) = true) (hstem : (Component.name (stemOf entry)).IsStep) :
    fs.locateSibling (dir.join (stemOf entry)) = .ok (dir.join entry)
      ↔ fs.IsFirstSibling dir entry := by
  rw [locateSibling_eq_ok_iff hdir hfs hlist hentry hstem,
    least?_eq_some_iff (siblingKey_injective _)]
  simp only [List.mem_filter, Bool.and_eq_true, hentry, hfile, true_and, and_true, and_imp,
    IsFirstSibling]
  refine and_congr_right fun _ => ?_
  constructor
  · intro hle found hfound
    cases hlist.symm.trans hfound
    exact hle
  · intro hle
    exact hle entries hlist

/-- A stem that is a name leads back if and only if nothing was cut off, or nothing stands there
and the index file comes first. -/
theorem locate_join_stemOf_iff (hdir : dir.IsNormal) (hfs : fs.IsRegular)
    (hlist : fs.list dir = .ok entries) (hentry : entry ∈ entries)
    (hfile : fs.isFile (dir.join entry) = true) (hstem : (Component.name (stemOf entry)).IsStep) :
    fs.locate (dir.join (stemOf entry)) = .ok (dir.join entry)
      ↔ (stemOf entry = entry ∧ fs.isDirectory (dir.join entry) = false)
        ∨ (fs.isAbsent (dir.join (stemOf entry)) = true ∧ fs.IsFirstSibling dir entry) := by
  have hplain := hfs.isStep_of_list dir entries hlist entry hentry
  cases hmetadata : fs.metadata (dir.join (stemOf entry)) with
  | ok metadata =>
    have hpresent : fs.isAbsent (dir.join (stemOf entry)) = false := by simp [isAbsent, hmetadata]
    cases hkind : metadata.isDir with
    | true =>
      have hdirectory : fs.isDirectory (dir.join (stemOf entry)) = true := by
        simp [isDirectory, hmetadata, hkind]
      constructor
      · intro h
        -- an entry of a directory below is no entry of the directory
        obtain ⟨below, name, hbelow, hindex, heq⟩ := exists_index_of_locate hdirectory h
        have hname := hfs.isStep_of_list _ below hbelow name (mem_of_indexFile? hindex).1
        have hlength := congrArg (fun path => path.components.length) heq
        simp only [Path.length_components_join_name hname, Path.length_components_join_name hstem,
          Path.length_components_join_name hplain] at hlength
        omega
      · rintro (⟨heq, hnot⟩ | ⟨habsent, -⟩)
        · rw [heq, hnot] at hdirectory
          cases hdirectory
        · rw [hpresent] at habsent
          cases habsent
    | false =>
      have hself : fs.locate (dir.join (stemOf entry)) = .ok (dir.join (stemOf entry)) := by
        simp [locate, hmetadata, hkind]
      rw [hself, hpresent]
      constructor
      · intro h
        have heq := Path.join_name_injective hstem hplain (Except.ok.inj h)
        refine Or.inl ⟨heq, ?_⟩
        rw [heq] at hmetadata
        simp [isDirectory, hmetadata, hkind]
      · rintro (⟨heq, -⟩ | ⟨habsent, -⟩)
        · rw [heq]
        · cases habsent
  | error cause =>
    have hcut : stemOf entry ≠ entry := by
      intro heq
      rw [heq] at hmetadata
      simp [isFile, hmetadata] at hfile
    cases hcause : cause.isNotFound with
    | true =>
      have hsibling : fs.locate (dir.join (stemOf entry))
          = fs.locateSibling (dir.join (stemOf entry)) := by
        simp [locate, hmetadata, hcause]
      rw [hsibling, locateSibling_stemOf_iff hdir hfs hlist hentry hfile hstem]
      simp [hcut, isAbsent, hmetadata, hcause]
    | false => simp [locate, hmetadata, hcause, hcut, isAbsent]

/-- What stands above a directory leads to none of its entries. -/
theorem locate_joinDir_parent_ne (hdir : dir.IsNormal) (hfs : fs.IsRegular)
    (hroot : dir.components ≠ [.root]) (hplain : (Component.name entry).IsStep) :
    fs.locate (dir.joinDir "..") ≠ .ok (dir.join entry) := by
  have habove := Path.length_components_joinDir_parent_lt hdir hroot
  have hbelow : (dir.join entry).components.length = dir.components.length + 1 :=
    Path.length_components_join_name hplain
  intro h
  rcases locate_cases h with ⟨heq, -⟩ | ⟨listed, name, hlist, hname, heq, -⟩
    | ⟨base, parent, listed, name, -, hparent, hlist, hname, heq, -⟩
  · rw [heq] at hbelow
    omega
  · rw [heq, Path.length_components_join_name (hfs.isStep_of_list _ _ hlist name hname)] at hbelow
    omega
  · rw [heq, Path.length_components_join_name (hfs.isStep_of_list _ _ hlist name hname),
      Path.components_parent? hparent, List.length_dropLast] at hbelow
    omega

/-- The name of an index file without its extension leads back to it under the condition. -/
theorem locate_joinDir_stemOf_iff (hdir : dir.IsNormal) (hfs : fs.IsRegular)
    (hlist : fs.list dir = .ok entries) (hindex : fs.indexFile? dir entries = some entry)
    (hlocate : fs.locate dir = .ok (dir.join entry)) :
    fs.locate (dir.joinDir (stemOf entry)) = .ok (dir.join entry) ↔ fs.StemLeadsTo dir entry := by
  obtain ⟨hentry, hfile⟩ := mem_of_indexFile? hindex
  have hplain := hfs.isStep_of_list dir entries hlist entry hentry
  have hslash : '/' ∉ (stemOf entry).toList := by
    intro hmem
    exact hplain.1 ((stemOf_isPrefix entry).subset hmem)
  have hne : stemOf entry ≠ "" := by
    apply stemOf_ne_empty
    rintro rfl
    exact absurd hplain (by decide)
  unfold StemLeadsTo
  rcases Path.isStep_or_dots hne hslash with hstem | hdot | hdots
  · have hbelow : dir.join (stemOf entry) ≠ dir := Path.join_name_ne hstem
    rw [Path.joinDir_name hdir hstem,
      locate_join_stemOf_iff hdir hfs hlist hentry hfile hstem]
    simp [hbelow, hstem]
  · have hself : dir.joinDir (stemOf entry) = dir := by rw [hdot, Path.joinDir_current hdir]
    simp [hself, hlocate]
  · have hcut : stemOf entry ≠ entry := by
      intro heq
      rw [← heq, hdots] at hplain
      exact absurd hplain (by decide)
    have hnotName : ¬(Component.name (stemOf entry)).IsStep := by
      rw [hdots]
      decide
    by_cases hroot : dir.components = [.root]
    · have heq : dir = ⟨"/"⟩ := hdir.eq_of_same (by decide) hroot
      have hself : dir.joinDir (stemOf entry) = dir := by
        rw [hdots, heq]
        decide
      simp [hself, hlocate]
    · have hother : dir.joinDir (stemOf entry) ≠ dir := by
        intro heq
        have habove := Path.length_components_joinDir_parent_lt hdir hroot
        rw [← hdots, heq] at habove
        exact absurd habove (lt_irrefl _)
      rw [hdots]
      simp [locate_joinDir_parent_ne hdir hfs hroot hplain, hdots ▸ hother, hdots ▸ hcut,
        hdots ▸ hnotName]

/-- A file `index` with a known extension leads back if and only if nothing stands at `index`. -/
theorem stemLeadsTo_index_iff (hdir : dir.IsNormal) (hlist : fs.list dir = .ok entries)
    (hindex : fs.indexFile? dir entries = some entry)
    (hknown : ((extensionAfter? indexName entry).bind rank?).isSome = true) :
    fs.StemLeadsTo dir entry ↔ fs.isAbsent (dir.join indexName) = true := by
  obtain ⟨rank, hrank⟩ := Option.isSome_iff_exists.mp hknown
  obtain ⟨extension, hextension, -⟩ := Option.bind_eq_some_iff.mp hrank
  have hstem : stemOf entry = indexName := stemOf_of_extensionAfter? (by decide) hextension
  have hname : (Component.name indexName).IsStep := by decide
  have hcut : indexName ≠ entry := by
    rintro rfl
    rw [show extensionAfter? indexName indexName = none by decide] at hextension
    cases hextension
  have hbelow : dir.join indexName ≠ dir := Path.join_name_ne hname
  -- among the files named `index` the one that is the index file comes first
  have hfirst : fs.IsFirstSibling dir entry := by
    unfold IsFirstSibling
    rw [hstem]
    refine ⟨by rw [hextension]; rfl, fun found hfound other hother hsome hfile => ?_⟩
    cases hlist.symm.trans hfound
    obtain ⟨otherExtension, hotherExtension⟩ := Option.isSome_iff_exists.mp hsome
    apply siblingKey_le_of_indexKey_le hrank
    apply le_of_least? hindex
    rw [List.mem_filter, occursIn_of_extensionAfter? hotherExtension, hfile]
    exact ⟨hother, rfl⟩
  unfold StemLeadsTo
  rw [hstem, Path.joinDir_name hdir hname]
  simp [hbelow, hcut, hname, hfirst]

end FileSystem

/-! ## The import of a name of the index file -/

namespace Redirector

open Lookup

variable {redirector : Redirector} {fs : FileSystem} {importer : Path} {statement : ImportStatement}
  {cache after : BarrelCache}

/-- An import of a name that the index file defines itself leads, written either way, to the
place of that file's name without its extension. -/
theorem joinDir_sourceFor_rootFile (redirector : Redirector) {barrel : Barrel} {dir : Path}
    (hdir : dir.IsRooted) (hdirectory : barrel.directory.IsNormal) {entry : String}
    (hplain : (Component.name entry).IsStep) (hfile : barrel.rootFile = barrel.directory.join entry)
    {record : ExportRecord} (hsegment : record.segment = "") :
    dir.joinDir (redirector.sourceFor barrel record dir)
      = barrel.directory.joinDir (stemOf entry) := by
  have hstem : barrel.rootStem? = some (stemOf entry) := by
    rw [Barrel.rootStem?, hfile, Path.fileStem?_join_name hplain]
  unfold sourceFor
  rw [if_neg (by simp [hsegment])]
  simp only [hsegment, if_true, hstem]
  exact (joinDir_write hdir (Path.isAbsolute_join hdirectory.1 _) redirector.style).2

/-- If a statement is replaced whose barrel is a directory, the import of a name that the index
file defines itself leads back to that file if and only if its name does without its extension;
for a file `index` with a known extension, if and only if nothing stands at `index`. -/
theorem locate_source_iff_of_redirect (redirector : Redirector) (hfs : fs.IsRegular)
    (hcache : cache.IsCurrent fs) {replacements : List ImportStatement}
    {diagnostics : List Diagnostic}
    (h : (redirector.redirect fs importer statement).run.run cache
      = (.ok ⟨.replaced replacements, diagnostics⟩, after)) :
    ∃ target barrel file dir, redirector.target? fs importer statement.source = some target
      ∧ fs.flatten target = .ok barrel ∧ fs.absolute importer = .ok file
      ∧ file.parent? = some dir
      ∧ (fs.isDirectory target = true →
        ∃ entry, barrel.rootFile.fileName? = some entry ∧ barrel.rootFile = target.join entry
          ∧ ∀ imported binding isType record,
            .named imported binding isType ∈ statement.specifiers →
              barrel.get? imported = some record → record.segment = "" →
                ∃ replacement ∈ replacements,
                  replacement.specifiers = [.named (record.importName imported) binding isType]
                  ∧ (fs.locate (dir.joinDir replacement.source) = .ok barrel.rootFile
                    ↔ fs.StemLeadsTo target entry)
                  ∧ (((extensionAfter? indexName entry).bind rank?).isSome = true →
                    (fs.locate (dir.joinDir replacement.source) = .ok barrel.rootFile
                      ↔ fs.isAbsent (target.join indexName) = true))) := by
  obtain ⟨target, barrel, file, htarget, hflattenOnce, hfile, hredirection⟩ :=
    exists_of_redirect_eq_replaced h
  obtain ⟨found, dir, hfound, hparent, hjoin⟩ := exists_of_target? htarget
  cases hfile.symm.trans hfound
  have hnormal : file.IsNormal := FileSystem.isNormal_of_absolute hfs.isAbsolute_cwd hfile
  have hdir : dir.IsRooted := hnormal.isRooted.parent? hparent
  have htargetNormal : target.IsNormal := by
    rw [← hjoin]
    exact Path.isNormal_joinDir hdir.isAbsolute _
  obtain ⟨directory, habsolute, hflatten⟩ := hcache.flattenOnce hflattenOnce
  rw [FileSystem.absolute_of_isNormal htargetNormal] at habsolute
  cases habsolute
  have hdirectory := FileSystem.directory_of_flatten htargetNormal hflatten
  refine ⟨target, barrel, file, dir, htarget, hflatten, hfile, hparent, fun hisdir => ?_⟩
  obtain ⟨-, events, hlog, -⟩ := FileSystem.log_of_flatten hflatten
  have hlocate : fs.locate target = .ok barrel.rootFile := by
    rw [hdirectory] at hlog
    exact (Modules.log_cases hlog).1
  obtain ⟨entries, entry, hlist, hindex, hroot⟩ :=
    FileSystem.exists_index_of_locate hisdir hlocate
  have hplain := hfs.isStep_of_list _ _ hlist entry (FileSystem.mem_of_indexFile? hindex).1
  have hname : barrel.rootFile.fileName? = some entry := by
    rw [hroot, Path.fileName?_join_name hplain]
  refine ⟨entry, hname, hroot, fun imported binding isType record hmem hget hsegment => ?_⟩
  have hreplacement := (mem_replacements hredirection).mpr
    ⟨_, hmem, imported, binding, isType, record, rfl, hget, rfl⟩
  rw [hparent] at hreplacement
  refine ⟨_, hreplacement, rfl, ?_⟩
  have hplace := redirector.joinDir_sourceFor_rootFile hdir (hdirectory ▸ htargetNormal) hplain
    (hdirectory ▸ hroot) hsegment
  rw [hdirectory] at hplace
  have hleads : fs.locate (dir.joinDir (redirector.sourceFor barrel record dir))
      = .ok barrel.rootFile ↔ fs.StemLeadsTo target entry := by
    rw [hplace, hroot]
    rw [hroot] at hlocate
    exact FileSystem.locate_joinDir_stemOf_iff htargetNormal hfs hlist hindex hlocate
  refine ⟨hleads, fun hknown => hleads.trans ?_⟩
  exact FileSystem.stemLeadsTo_index_iff htargetNormal hlist hindex hknown

end Redirector

/-! ## Two directories -/

/-- A directory with an index file and a file that has the same name with another extension. -/
def Fixture.plainIndex : Fixture :=
  ((Fixture.empty (some ⟨"/"⟩)).add ⟨"/b/index.js"⟩ (.file "export const B = 1;")).add
    ⟨"/b/index.ts"⟩ (.file "export const A = 1;")

/-- A redirector for its barrel. -/
def Redirector.plainIndex : Redirector :=
  .make Fixture.plainIndex.view [⟨"/b"⟩] .absolute

theorem Redirector.locate_source_plainIndex :
    Fixture.plainIndex.view.IsRegular ∧ BarrelCache.empty.IsCurrent Fixture.plainIndex.view
      ∧ ∃ after, (plainIndex.redirect Fixture.plainIndex.view ⟨"/a.ts"⟩
            ⟨"./b", [.named "A" "A" false], false⟩).run.run .empty
          = (.ok ⟨.replaced [⟨"/b/index", [.named "A" "A" false], false⟩], []⟩, after)
        ∧ Fixture.plainIndex.view.locate ((⟨"/"⟩ : Path).joinDir "/b/index")
          = .ok ⟨"/b/index.ts"⟩ := by
  have hfs : Fixture.plainIndex.view.IsRegular :=
    Fixture.isRegular_view (by decide +kernel) (by decide +kernel)
  have hcache := BarrelCache.isCurrent_empty Fixture.plainIndex.view
  have hresult : ((plainIndex.redirect Fixture.plainIndex.view ⟨"/a.ts"⟩
      ⟨"./b", [.named "A" "A" false], false⟩).run.run .empty).1
        = .ok ⟨.replaced [⟨"/b/index", [.named "A" "A" false], false⟩], []⟩ := by decide +kernel
  generalize hrun : (plainIndex.redirect Fixture.plainIndex.view ⟨"/a.ts"⟩
      ⟨"./b", [.named "A" "A" false], false⟩).run.run .empty = run at hresult ⊢
  obtain ⟨result, after⟩ := run
  cases hresult
  refine ⟨hfs, hcache, after, rfl, ?_⟩
  obtain ⟨target, barrel, file, dir, htarget, hflatten, hfile, hparent, hleads⟩ :=
    locate_source_iff_of_redirect plainIndex hfs hcache hrun
  -- the barrel is the one that the fixture holds
  have hknown : plainIndex.target? Fixture.plainIndex.view ⟨"/a.ts"⟩ "./b" = some ⟨"/b"⟩ := by
    decide +kernel
  cases hknown.symm.trans htarget
  have hbarrel : Fixture.plainIndex.view.flatten ⟨"/b"⟩
      = .ok ⟨⟨"/b"⟩, ⟨"/b/index.ts"⟩, [("A", ⟨"", none⟩)], []⟩ := by decide +kernel
  cases hbarrel.symm.trans hflatten
  rw [FileSystem.absolute_of_isNormal (by decide)] at hfile
  cases hfile
  cases hparent
  obtain ⟨entry, hname, -, hreplaced⟩ := hleads (by decide +kernel)
  cases hname
  obtain ⟨replacement, hmem, -, -, hindex⟩ :=
    hreplaced "A" "A" false _ List.mem_cons_self rfl rfl
  cases List.mem_singleton.mp hmem
  exact (hindex (by decide)).mpr (by decide +kernel)

/-- A directory without a file named `index`, in which two files have the marked name. -/
def Fixture.twoIndexes : Fixture :=
  ((Fixture.empty (some ⟨"/"⟩)).add ⟨"/b/my-index.js"⟩ (.file "export const A = 1;")).add
    ⟨"/b/my-index.ts"⟩ (.file "export const B = 1;")

/-- A redirector for its barrel. -/
def Redirector.twoIndexes : Redirector :=
  .make Fixture.twoIndexes.view [⟨"/b"⟩] .relative

/-- The first file by name is the index file, but the first by extension is where the import of
one of its names leads. -/
theorem Redirector.not_locate_source_twoIndexes :
    (Fixture.twoIndexes.view.flatten ⟨"/b"⟩).map (·.rootFile) = .ok ⟨"/b/my-index.js"⟩
      ∧ ((twoIndexes.redirect Fixture.twoIndexes.view ⟨"/a.ts"⟩
            ⟨"./b", [.named "A" "A" false], false⟩).run.run .empty).1
          = .ok ⟨.replaced [⟨"./b/my-index", [.named "A" "A" false], false⟩], []⟩
      ∧ Fixture.twoIndexes.view.locate ((⟨"/"⟩ : Path).joinDir "./b/my-index")
          = .ok ⟨"/b/my-index.ts"⟩ := by
  decide +kernel

end DirectImports
