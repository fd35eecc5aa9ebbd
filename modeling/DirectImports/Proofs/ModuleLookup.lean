import DirectImports.Proofs.Candidates
import DirectImports.Proofs.Path.Entry

/-!
# Which file a path leads to

Lookup takes the least of several candidates by a key that is made for sorting. Here is what it
takes, said without keys: the candidates are names of a certain form (`Lookup.IsIndexName`,
`Lookup.IsSiblingName`), one comes before another by a rule on names (`Lookup.IndexBefore`,
`Lookup.SiblingBefore`), and the first of them all is taken (`Lookup.IsFirst`). The keys are ordered
as the names are (`indexKey_lt_iff`, `siblingKey_lt_iff`), so that each of the three ways of lookup
does what it should (`FileSystem.locate_spec`).
-/

namespace DirectImports

namespace Lookup

/-! ## Names and their order -/

/-- The name of a file that may be the index file of a directory: `index` occurs in it. -/
def IsIndexName (entry : String) : Prop :=
  indexName.toList <:+: entry.toList

/-- The name of a file that may be meant by a name without extension: it has an extension more,
which is a word. -/
def IsSiblingName (base entry : String) : Prop :=
  ∃ extension, entry = base ++ "." ++ extension ∧ extension ≠ ""
    ∧ ∀ c ∈ extension.toList, Text.isAlphanumeric c = true ∨ c = '_'

/-- The name is `index` with a known extension. -/
def IsExactIndex (entry : String) : Prop :=
  ∃ extension ∈ moduleExtensions, entry = indexName ++ "." ++ extension

/-- The order of index files: `index` with a known extension first, by the place of the extension,
and then all others by their names. -/
inductive IndexBefore : String → String → Prop
  | extension {first second : String} (hfirst : first ∈ moduleExtensions)
      (hsecond : second ∈ moduleExtensions)
      (hlt : moduleExtensions.idxOf first < moduleExtensions.idxOf second) :
      IndexBefore (indexName ++ "." ++ first) (indexName ++ "." ++ second)
  | exactly {entry other : String} (hentry : IsExactIndex entry) (hother : ¬IsExactIndex other) :
      IndexBefore entry other
  | name {entry other : String} (hentry : ¬IsExactIndex entry) (hother : ¬IsExactIndex other)
      (hlt : entry < other) : IndexBefore entry other

/-- The order of files with one name: by the place of the extension, where all that are not known
come last, and then by their names. -/
inductive SiblingBefore (base : String) : String → String → Prop
  | extension {first second : String}
      (hlt : moduleExtensions.idxOf first < moduleExtensions.idxOf second) :
      SiblingBefore base (base ++ "." ++ first) (base ++ "." ++ second)
  | name {first second : String}
      (heq : moduleExtensions.idxOf first = moduleExtensions.idxOf second)
      (hlt : base ++ "." ++ first < base ++ "." ++ second) :
      SiblingBefore base (base ++ "." ++ first) (base ++ "." ++ second)

/-- The candidate comes before all others. -/
def IsFirst (candidate : String → Prop) (before : String → String → Prop) (entry : String) : Prop :=
  candidate entry ∧ ∀ other, candidate other → other ≠ entry → before entry other

/-! ## Names that lookup looks for -/

theorem occursIn_iff_infix (part text : List Char) :
    occursIn part text = true ↔ part <:+: text := by
  induction text with
  | nil => simp [occursIn]
  | cons c rest ih =>
    rw [occursIn, Bool.or_eq_true, ih, List.isPrefixOf_iff_prefix, List.infix_cons_iff]

theorem toList_append_dot (base extension : String) :
    (base ++ "." ++ extension).toList = base.toList ++ '.' :: extension.toList := by
  simp

theorem extensionAfter?_eq_some_iff {base entry extension : String} :
    extensionAfter? base entry = some extension
      ↔ entry = base ++ "." ++ extension ∧ extension ≠ ""
        ∧ ∀ c ∈ extension.toList, Text.isAlphanumeric c = true ∨ c = '_' := by
  constructor
  · intro h
    obtain ⟨htext, hword⟩ := extensionAfter?_eq_some h
    refine ⟨?_, ?_, ?_⟩
    · apply String.toList_injective
      rw [htext, toList_append_dot]
    · rintro rfl
      unfold extensionAfter? at h
      rw [htext] at h
      simp at h
    · intro c hc
      simpa [isWordChar] using List.all_eq_true.mp hword c hc
  · rintro ⟨rfl, hne, hword⟩
    have hchars : extension.toList.all (fun c => Text.isAlphanumeric c || c == '_') = true := by
      simpa using hword
    have hnil : extension.toList ≠ [] := by simpa using hne
    unfold extensionAfter?
    rw [toList_append_dot, List.drop_left]
    simp [hchars, hnil]

theorem isSome_extensionAfter?_iff {base entry : String} :
    (extensionAfter? base entry).isSome = true ↔ IsSiblingName base entry := by
  rw [Option.isSome_iff_exists]
  exact exists_congr fun _ => extensionAfter?_eq_some_iff

/-! ## Known extensions -/

theorem isSiblingName_of_mem {base extension : String} (h : extension ∈ moduleExtensions) :
    IsSiblingName base (base ++ "." ++ extension) := by
  have hknown : moduleExtensions.all (fun known => known != ""
      && known.toList.all fun c => Text.isAlphanumeric c || c == '_') = true := by decide +kernel
  have hword := List.all_eq_true.mp hknown extension h
  simp only [Bool.and_eq_true, bne_iff_ne, List.all_eq_true, Bool.or_eq_true, beq_iff_eq] at hword
  exact ⟨extension, rfl, hword⟩

theorem append_dot_inj {base first second : String} :
    base ++ "." ++ first = base ++ "." ++ second ↔ first = second := by
  refine ⟨fun h => String.toList_injective ?_, fun h => by rw [h]⟩
  have htexts := congrArg String.toList h
  rw [toList_append_dot, toList_append_dot] at htexts
  simpa using htexts

/-- The extension of a name that is looked for is found. -/
theorem extensionAfter?_append {base extension : String}
    (h : IsSiblingName base (base ++ "." ++ extension)) :
    extensionAfter? base (base ++ "." ++ extension) = some extension := by
  obtain ⟨found, heq, hword⟩ := h
  obtain rfl := append_dot_inj.mp heq
  exact extensionAfter?_eq_some_iff.mpr ⟨rfl, hword⟩

theorem getD_rank? (extension : String) :
    (rank? extension).getD moduleExtensions.length = moduleExtensions.idxOf extension :=
  (List.idxOf_eq_getD_idxOf? extension moduleExtensions).symm

theorem rank?_of_mem {extension : String} (h : extension ∈ moduleExtensions) :
    rank? extension = some (moduleExtensions.idxOf extension) := by
  have hlt := List.idxOf_lt_length_iff.mpr h
  rw [← getD_rank?] at hlt ⊢
  cases hrank : rank? extension with
  | none => rw [hrank] at hlt; exact absurd hlt (Nat.lt_irrefl _)
  | some rank => rfl

theorem mem_of_rank? {extension : String} {rank : Nat} (h : rank? extension = some rank) :
    extension ∈ moduleExtensions := by
  obtain ⟨hlt, heq, -⟩ := List.idxOf?_eq_some_iff.mp h
  exact heq ▸ List.getElem_mem hlt

/-! ## Keys in the order of names -/

theorem indexKey_append {extension : String} (h : extension ∈ moduleExtensions) :
    indexKey (indexName ++ "." ++ extension) = ⟨moduleExtensions.idxOf extension, ""⟩ := by
  rw [indexKey, extensionAfter?_append (isSiblingName_of_mem h), Option.bind_some, rank?_of_mem h]

theorem indexKey_of_not_isExactIndex {entry : String} (h : ¬IsExactIndex entry) :
    indexKey entry = ⟨moduleExtensions.length, entry⟩ := by
  have hnone : (extensionAfter? indexName entry).bind rank? = none := by
    rw [Option.eq_none_iff_forall_ne_some]
    intro rank hrank
    obtain ⟨extension, hafter, hfound⟩ := Option.bind_eq_some_iff.mp hrank
    exact h ⟨extension, mem_of_rank? hfound, (extensionAfter?_eq_some_iff.mp hafter).1⟩
  rw [indexKey, hnone]

/-- The keys of index files are ordered as their names are. -/
theorem indexKey_lt_iff {entry other : String} :
    indexKey entry < indexKey other ↔ IndexBefore entry other := by
  constructor
  · intro h
    by_cases hentry : IsExactIndex entry
    · by_cases hother : IsExactIndex other
      · obtain ⟨first, hfirst, rfl⟩ := hentry
        obtain ⟨second, hsecond, rfl⟩ := hother
        rw [indexKey_append hfirst, indexKey_append hsecond, Key.lt_iff] at h
        simp only [lt_self_iff_false, and_false, or_false] at h
        exact .extension hfirst hsecond h
      · exact .exactly hentry hother
    · rw [indexKey_of_not_isExactIndex hentry] at h
      by_cases hother : IsExactIndex other
      · obtain ⟨second, hsecond, rfl⟩ := hother
        have hlast := List.idxOf_lt_length_iff.mpr hsecond
        rw [indexKey_append hsecond, Key.lt_iff] at h
        simp only at h
        omega
      · rw [indexKey_of_not_isExactIndex hother, Key.lt_iff] at h
        simp only [lt_self_iff_false, true_and, false_or] at h
        exact .name hentry hother h
  · intro h
    rw [Key.lt_iff]
    cases h with
    | extension hfirst hsecond hlt =>
      rw [indexKey_append hfirst, indexKey_append hsecond]
      exact Or.inl hlt
    | exactly hentry hother =>
      obtain ⟨first, hfirst, rfl⟩ := hentry
      rw [indexKey_append hfirst, indexKey_of_not_isExactIndex hother]
      exact Or.inl (List.idxOf_lt_length_iff.mpr hfirst)
    | name hentry hother hlt =>
      rw [indexKey_of_not_isExactIndex hentry, indexKey_of_not_isExactIndex hother]
      exact Or.inr ⟨rfl, hlt⟩

theorem siblingKey_append {base extension : String}
    (h : IsSiblingName base (base ++ "." ++ extension)) :
    siblingKey base (base ++ "." ++ extension)
      = ⟨moduleExtensions.idxOf extension, base ++ "." ++ extension⟩ := by
  rw [siblingKey, extensionAfter?_append h, Option.bind_some, getD_rank?]

/-- The keys of files with one name are ordered as their names are. -/
theorem siblingKey_lt_iff {base entry other : String} (hentry : IsSiblingName base entry)
    (hother : IsSiblingName base other) :
    siblingKey base entry < siblingKey base other ↔ SiblingBefore base entry other := by
  constructor
  · intro h
    have ⟨first, hfirst, _⟩ := hentry
    have ⟨second, hsecond, _⟩ := hother
    subst hfirst hsecond
    rw [siblingKey_append hentry, siblingKey_append hother, Key.lt_iff] at h
    rcases h with hlt | ⟨heq, hlt⟩
    · exact .extension hlt
    · exact .name heq hlt
  · intro h
    rw [Key.lt_iff]
    cases h with
    | extension hlt =>
      rw [siblingKey_append hentry, siblingKey_append hother]
      exact Or.inl hlt
    | name heq hlt =>
      rw [siblingKey_append hentry, siblingKey_append hother]
      exact Or.inr ⟨heq, hlt⟩

/-! ## The first candidate -/

/-- If keys are ordered as candidates are, the least candidate is the first one. -/
theorem least?_eq_some_iff_isFirst {key : String → Key} (hkey : Function.Injective key)
    {candidates : List String} {candidate : String → Prop} {before : String → String → Prop}
    (hmem : ∀ entry, entry ∈ candidates ↔ candidate entry)
    (hbefore : ∀ entry other, candidate entry → candidate other →
      (key entry < key other ↔ before entry other)) {entry : String} :
    least? key candidates = some entry ↔ IsFirst candidate before entry := by
  rw [least?_eq_some_iff hkey, hmem]
  refine and_congr_right fun hentry => ⟨fun hle other hother hne => ?_, fun hfirst other hin => ?_⟩
  · have hlt := lt_of_le_of_ne (hle other ((hmem other).mpr hother)) fun heq => hne (hkey heq).symm
    exact (hbefore entry other hentry hother).mp hlt
  · have hother := (hmem other).mp hin
    by_cases heq : other = entry
    · rw [heq]
    · exact ((hbefore entry other hentry hother).mpr (hfirst other hother heq)).le

theorem least?_eq_none_iff {key : String → Key} {candidates : List String} :
    least? key candidates = none ↔ ∀ entry, entry ∉ candidates := by
  rw [← List.eq_nil_iff_forall_not_mem]
  cases candidates <;> simp [least?]

end Lookup

/-! ## The three ways of lookup -/

namespace FileSystem

open Lookup

variable {fs : FileSystem} {path dir file : Path} {entries : List String}

/-- Nothing is a file and a directory. -/
def TellsKinds (fs : FileSystem) : Prop :=
  ∀ path metadata, fs.metadata path = .ok metadata →
    ¬(metadata.isFile = true ∧ metadata.isDir = true)

/-- Directories list plain names. -/
def ListsNames (fs : FileSystem) : Prop :=
  ∀ dir entries, fs.list dir = .ok entries → ∀ entry ∈ entries, (Component.name entry).IsStep

/-- A listed file whose name is looked for. -/
def IsCandidate (fs : FileSystem) (dir : Path) (entries : List String) (isName : String → Prop)
    (entry : String) : Prop :=
  entry ∈ entries ∧ isName entry ∧ fs.isFile (dir.join entry) = true

/-- A lookup in a directory finds the first candidate, and answers with the error exactly if there
is none. -/
structure TakesFirst (result : Except BarrelError Path) (dir : Path) (candidate : String → Prop)
    (before : String → String → Prop) (error : BarrelError) : Prop where
  found : (∃ entry, candidate entry) →
    ∃ entry, IsFirst candidate before entry ∧ result = .ok (dir.join entry)
  missing_iff : result = .error error ↔ ¬∃ entry, candidate entry

/-- A lookup that takes the least candidate takes the first one. -/
theorem takesFirst_of_least? {key : String → Key} (hkey : Function.Injective key)
    (candidates : List String) {candidate : String → Prop} {before : String → String → Prop}
    (hmem : ∀ entry, entry ∈ candidates ↔ candidate entry)
    (hbefore : ∀ entry other, candidate entry → candidate other →
      (key entry < key other ↔ before entry other))
    {result : Except BarrelError Path} {error : BarrelError}
    (hfound : ∀ entry, least? key candidates = some entry → result = .ok (dir.join entry))
    (hmissing : least? key candidates = none → result = .error error) :
    TakesFirst result dir candidate before error := by
  cases hleast : least? key candidates with
  | some entry =>
    have hfirst := (least?_eq_some_iff_isFirst hkey hmem hbefore).mp hleast
    have hresult := hfound entry hleast
    refine ⟨fun _ => ⟨entry, hfirst, hresult⟩, ?_⟩
    rw [hresult]
    simpa using ⟨entry, hfirst.1⟩
  | none =>
    have hnone : ¬∃ entry, candidate entry := by
      rintro ⟨entry, hentry⟩
      exact least?_eq_none_iff.mp hleast entry ((hmem entry).mpr hentry)
    exact ⟨fun hsome => absurd hsome hnone, by simp [hmissing hleast, hnone]⟩

/-- A directory leads to the first of its index files. -/
theorem takesFirst_locate_directory (hdir : fs.isDirectory path = true)
    (hlist : fs.list path = .ok entries) :
    TakesFirst (fs.locate path) path (fs.IsCandidate path entries IsIndexName) IndexBefore
      (.noIndex path) := by
  have hlocate : fs.locate path = fs.locateIndex path := by
    rw [isDirectory] at hdir
    rw [locate]
    cases hmetadata : fs.metadata path with
    | error cause => rw [hmetadata] at hdir; cases hdir
    | ok metadata => rw [hmetadata] at hdir; exact if_pos hdir
  refine takesFirst_of_least? indexKey_injective (entries.filter fun entry =>
    occursIn indexName.toList entry.toList && fs.isFile (path.join entry)) ?_
    (fun _ _ _ _ => indexKey_lt_iff) ?_ ?_
  · intro entry
    rw [List.mem_filter, Bool.and_eq_true, occursIn_iff_infix]
    rfl
  · intro entry hleast
    simp only [hlocate, locateIndex, hlist, indexFile?, hleast]
  · intro hleast
    simp only [hlocate, locateIndex, hlist, indexFile?, hleast]

/-- Something that is no directory leads to itself. -/
theorem locate_of_metadata {metadata : Metadata} (hmetadata : fs.metadata path = .ok metadata)
    (hdir : metadata.isDir = false) : fs.locate path = .ok path := by
  unfold locate
  rw [hmetadata]
  simp [hdir]

/-- Where nothing is, a path leads to the first file that has its name and an extension. -/
theorem takesFirst_locate_missing {base : String} (hdir : dir.IsNormal)
    (hbase : (Component.name base).IsStep) (habsent : fs.isAbsent (dir.join base) = true)
    (hlist : fs.list dir = .ok entries) :
    TakesFirst (fs.locate (dir.join base)) dir (fs.IsCandidate dir entries (IsSiblingName base))
      (SiblingBefore base) (.missing (dir.join base)) := by
  have hlocate : fs.locate (dir.join base) = fs.locateSibling (dir.join base) := by
    rw [isAbsent] at habsent
    rw [locate]
    cases hmetadata : fs.metadata (dir.join base) with
    | error cause => rw [hmetadata] at habsent; exact if_pos habsent
    | ok metadata => rw [hmetadata] at habsent; cases habsent
  have hname : (dir.join base).fileName? = some base := Path.fileName?_join_name hbase
  have hparent : (dir.join base).parent? = some dir := Path.parent?_join_name hdir hbase
  refine takesFirst_of_least? (siblingKey_injective base) (entries.filter fun entry =>
    (extensionAfter? base entry).isSome && fs.isFile (dir.join entry)) ?_
    (fun _ _ hentry hother => siblingKey_lt_iff hentry.2.1 hother.2.1) ?_ ?_
  · intro entry
    rw [List.mem_filter, Bool.and_eq_true, isSome_extensionAfter?_iff]
    rfl
  · intro entry hleast
    simp only [hlocate, locateSibling, hname, hparent, hlist, hleast]
  · intro hleast
    simp only [hlocate, locateSibling, hname, hparent, hlist, hleast]

theorem metadata_of_isFile (hkinds : fs.TellsKinds) (h : fs.isFile path = true) :
    ∃ metadata, fs.metadata path = .ok metadata ∧ metadata.isDir = false := by
  rw [isFile] at h
  cases hmetadata : fs.metadata path with
  | error cause => rw [hmetadata] at h; cases h
  | ok metadata =>
    rw [hmetadata] at h
    have hfile : metadata.isFile = true := h
    have hnot := hkinds path metadata hmetadata
    exact ⟨metadata, rfl, by simpa [hfile] using hnot⟩

/-- What is found is there and no directory, and its directory is the path or the one above. -/
theorem found_of_locate (hkinds : fs.TellsKinds) (hnames : fs.ListsNames) (hpath : path.IsNormal)
    (h : fs.locate path = .ok file) :
    (∃ metadata, fs.metadata file = .ok metadata ∧ metadata.isDir = false)
      ∧ (file.parent? = some path ∨ file.parent? = path.parent?) := by
  rcases locate_cases h with ⟨rfl, hmetadata⟩ | ⟨entries, entry, hlist, hmem, rfl, hfile⟩
    | ⟨base, parent, entries, entry, -, hparent, hlist, hmem, rfl, hfile⟩
  · exact ⟨hmetadata, Or.inr rfl⟩
  · have hstep := hnames path entries hlist entry hmem
    exact ⟨metadata_of_isFile hkinds hfile, Or.inl (Path.parent?_join_name hpath hstep)⟩
  · have hstep := hnames parent entries hlist entry hmem
    have hbeside := Path.parent?_join_name (hpath.parent? hparent) hstep
    exact ⟨metadata_of_isFile hkinds hfile, Or.inr (hbeside.trans hparent.symm)⟩

/-- Lookup by an absolute path in normal form. -/
theorem locate_spec (hkinds : fs.TellsKinds) (hnames : fs.ListsNames) (hpath : path.IsNormal) :
    (∀ entries, fs.isDirectory path = true → fs.list path = .ok entries →
        TakesFirst (fs.locate path) path (fs.IsCandidate path entries IsIndexName) IndexBefore
          (.noIndex path))
      ∧ (∀ metadata, fs.metadata path = .ok metadata → metadata.isDir = false →
          fs.locate path = .ok path)
      ∧ (∀ parent entries, fs.isAbsent path = true → path.parent? = some parent →
          fs.list parent = .ok entries →
          ∃ base, path.fileName? = some base
            ∧ TakesFirst (fs.locate path) parent
                (fs.IsCandidate parent entries (IsSiblingName base)) (SiblingBefore base)
                (.missing path))
      ∧ ∀ file, fs.locate path = .ok file →
          fs.isDirectory file = false ∧ (file.parent? = some path ∨ file.parent? = path.parent?)
            ∧ fs.locate file = .ok file := by
  refine ⟨fun entries => takesFirst_locate_directory, fun metadata => locate_of_metadata, ?_, ?_⟩
  · intro parent entries habsent hparent hlist
    obtain ⟨base, hbase, rfl⟩ := hpath.exists_eq_join_name hparent
    exact ⟨base, Path.fileName?_join_name hbase,
      takesFirst_locate_missing (hpath.parent? hparent) hbase habsent hlist⟩
  · intro file hfile
    obtain ⟨⟨metadata, hmetadata, hdir⟩, hparent⟩ := found_of_locate hkinds hnames hpath hfile
    refine ⟨?_, hparent, locate_of_metadata hmetadata hdir⟩
    rw [isDirectory, hmetadata]
    exact hdir

end FileSystem

/-! ## Fixtures -/

/-- A regular file system lists plain names. -/
theorem FileSystem.IsRegular.listsNames {fs : FileSystem} (h : fs.IsRegular) : fs.ListsNames :=
  h.isStep_of_list

namespace Fixture

/-- In a fixture nothing is a file and a directory. -/
theorem tellsKinds_view (fixture : Fixture) : fixture.view.TellsKinds := by
  intro path metadata h
  change fixture.metadata path = .ok metadata at h
  unfold Fixture.metadata at h
  cases hfind : fixture.find "get metadata for" path with
  | error error => rw [hfind] at h; cases h
  | ok content =>
    rw [hfind] at h
    cases content <;> cases h <;> simp

/-- A directory with several index files, one of which is a directory, and with files that have one
name and different extensions. -/
def manyNames : Fixture :=
  ((((((((Fixture.empty (some ⟨"/"⟩)).add ⟨"/b/an-index.ts"⟩ (.file "")).add
    ⟨"/b/index.js"⟩ (.file "")).add ⟨"/b/index.ts"⟩ .directory).add
    ⟨"/b/index.d.ts"⟩ (.file "")).add ⟨"/b/x.zip"⟩ (.file "")).add
    ⟨"/b/x.js"⟩ (.file "")).add ⟨"/b/x.d.ts"⟩ (.file "")).add ⟨"/b/x.mts"⟩ (.file "")

/-- The names in that directory. -/
def manyNamesEntries : List String :=
  ["an-index.ts", "index.js", "index.ts", "index.d.ts", "x.zip", "x.js", "x.d.ts", "x.mts"]

theorem isRegular_manyNames : manyNames.view.IsRegular :=
  isRegular_view (by decide +kernel) (by decide +kernel)

end Fixture

open Lookup in
theorem FileSystem.locate_spec_manyNames :
    (Fixture.manyNames.view.TellsKinds ∧ Fixture.manyNames.view.ListsNames
        ∧ (⟨"/b"⟩ : Path).IsNormal ∧ (⟨"/b/x"⟩ : Path).IsNormal)
      ∧ (Fixture.manyNames.view.locate ⟨"/b"⟩ = .ok ⟨"/b/index.js"⟩
        ∧ TakesFirst (Fixture.manyNames.view.locate ⟨"/b"⟩) ⟨"/b"⟩
            (Fixture.manyNames.view.IsCandidate ⟨"/b"⟩ Fixture.manyNamesEntries IsIndexName)
            IndexBefore (.noIndex ⟨"/b"⟩))
      ∧ Fixture.manyNames.view.locate ⟨"/b/x"⟩ = .ok ⟨"/b/x.mts"⟩
        ∧ ∃ base, TakesFirst (Fixture.manyNames.view.locate ⟨"/b/x"⟩) ⟨"/b"⟩
            (Fixture.manyNames.view.IsCandidate ⟨"/b"⟩ Fixture.manyNamesEntries
              (IsSiblingName base)) (SiblingBefore base) (.missing ⟨"/b/x"⟩) := by
  have hkinds := Fixture.manyNames.tellsKinds_view
  have hnames := Fixture.isRegular_manyNames.listsNames
  have hdir : (⟨"/b"⟩ : Path).IsNormal := by decide +kernel
  have hpath : (⟨"/b/x"⟩ : Path).IsNormal := by decide +kernel
  have hlist : Fixture.manyNames.view.list ⟨"/b"⟩ = .ok Fixture.manyNamesEntries := by
    decide +kernel
  have hparent : (⟨"/b/x"⟩ : Path).parent? = some ⟨"/b"⟩ := by decide +kernel
  refine ⟨⟨hkinds, hnames, hdir, hpath⟩, ⟨by decide +kernel, ?_⟩, by decide +kernel, ?_⟩
  · exact (FileSystem.locate_spec hkinds hnames hdir).1 _ (by decide +kernel) hlist
  · obtain ⟨base, -, htakes⟩ :=
      (FileSystem.locate_spec hkinds hnames hpath).2.2.1 _ _ (by decide +kernel) hparent hlist
    exact ⟨base, htakes⟩

end DirectImports
