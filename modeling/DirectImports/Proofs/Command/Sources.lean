import DirectImports.CommandLine.Sources
import DirectImports.Proofs.Walk

/-!
# Which files are collected

Every path that is named stands for the files at or below it that are to be transformed
(`IsSource`), or is missing. The walk from it, which does not enter what is left out, comes to all
of these files (`exists_taken_of_isSource`) and to no others that are taken
(`isSource_of_mem_walkBelow`).

What is found for the single paths is put together, sorted, and freed of neighbours at the same
place. Since paths in normal form are given by their names, and lists of names are linearly ordered,
the result is strictly increasing, and which files are in it decides about the whole list. So it
depends on the set of paths that are named, and on nothing else (`collects_collectSources`).
-/

namespace DirectImports

/-! ## Results in a row -/

section Results

variable {f : α → Except ε β} {items : List α}

/-- The first failure counts. -/
theorem mapM_eq_error {front : List α} {item : α} {error : ε}
    (hfront : ∀ earlier ∈ front, ∃ result, f earlier = .ok result)
    (herror : f item = .error error) (back : List α) :
    (front ++ item :: back).mapM f = .error error := by
  induction front with
  | nil =>
    rw [List.nil_append, List.mapM_cons, herror]
    rfl
  | cons first rest ih =>
    obtain ⟨⟨result, hresult⟩, hrest⟩ := List.forall_mem_cons.mp hfront
    rw [List.cons_append, List.mapM_cons, hresult, ih hrest]
    rfl

/-- Without a failure there are results, namely those of the items. -/
theorem exists_mapM_eq_ok (h : ∀ item ∈ items, ∃ result, f item = .ok result) :
    ∃ results, items.mapM f = .ok results
      ∧ ∀ result, result ∈ results ↔ ∃ item ∈ items, f item = .ok result := by
  induction items with
  | nil => exact ⟨[], rfl, by simp⟩
  | cons first rest ih =>
    obtain ⟨⟨result, hresult⟩, hrest⟩ := List.forall_mem_cons.mp h
    obtain ⟨results, hresults, hmem⟩ := ih hrest
    refine ⟨result :: results, ?_, fun other => ?_⟩
    · rw [List.mapM_cons, hresult, hresults]
      rfl
    · rw [List.mem_cons, hmem, List.exists_mem_cons_iff, hresult, Except.ok.injEq, eq_comm]

/-- What succeeds as a whole succeeds for every item. -/
theorem exists_of_mapM_eq_ok {results : List β} (h : items.mapM f = .ok results) :
    ∀ item ∈ items, ∃ result, f item = .ok result := by
  induction items generalizing results with
  | nil => simp
  | cons first rest ih =>
    rw [List.mapM_cons] at h
    cases hfirst : f first with
    | error error => rw [hfirst] at h; cases h
    | ok result =>
      cases hrest : rest.mapM f with
      | error error => rw [hfirst, hrest] at h; cases h
      | ok others => exact List.forall_mem_cons.mpr ⟨⟨result, hfirst⟩, ih hrest⟩

end Results

namespace CommandLine

variable {disk : Disk} {config : Config} {cwd root path file : Path} {location : Location}

/-! ## The files of one path -/

theorem isNormal_resolvePath (hcwd : cwd.isAbsolute = true) (path : Path) :
    (resolvePath cwd path).IsNormal := by
  unfold resolvePath
  split
  · next habsolute => exact Path.isNormal_clean habsolute
  · exact Path.isNormal_clean (Path.isAbsolute_join hcwd _)

/-- The file is to be transformed because the path is named: it is the file at that path or one
below it, its extension is included, and no name below the path is left out. -/
structure IsSource (disk : Disk) (config : Config) (root file : Path) : Prop where
  isNormal : file.IsNormal
  hasFile : disk.HasFile file
  isBelow : file.startsWith root = true
  isIncluded : ∃ extension ∈ config.includeExtensions, file.extension? = some extension
  isKept : ∀ name, .name name ∈ file.components.drop root.components.length →
    name ∉ Config.defaultExcludes ∧ name ∉ config.exclude

theorem includesFile_iff : config.includesFile file = true
    ↔ ∃ extension ∈ config.includeExtensions, file.extension? = some extension := by
  unfold Config.includesFile
  cases file.extension? with
  | none => simp
  | some extension => simp

theorem isExcluded_eq_false_iff {name : String} : config.isExcluded name = false
    ↔ name ∉ Config.defaultExcludes ∧ name ∉ config.exclude := by
  simp [Config.isExcluded]

/-- A source stands below the place of the path that is named. -/
theorem IsSource.exists_names (h : IsSource disk config root file) {place : Location}
    (hroot : root.components = .root :: location.map .name)
    (hfile : file.components = .root :: place.map .name) : ∃ names, place = location ++ names := by
  have hbelow := List.isPrefixOf_iff_prefix.mp h.isBelow
  rw [hroot, hfile, List.prefix_cons_inj, List.prefix_map_iff] at hbelow
  obtain ⟨front, hfront, heq⟩ := hbelow
  rw [List.map_inj_right (fun _ _ hname => Component.name.inj hname)] at heq
  obtain ⟨names, rfl⟩ := hfront
  exact ⟨names, by rw [heq]⟩

theorem isTaken_iff {visited : Visited} : isTaken config visited = true
    ↔ (∃ text, visited.node = .file text) ∧ config.includesFile visited.path = true := by
  obtain ⟨path, node⟩ := visited
  cases node <;> simp [isTaken, isPlainFile]

/-- What is taken of a walk below a directory that passes over the names that are left out is a
source of the directory's path. -/
theorem isSource_of_mem_walkBelow {visited : Visited} (hdisk : disk.IsProject)
    (hroot : root.IsNormal) (hlocate : disk.locate root = .ok (location, .directory))
    (hvisited : visited ∈ disk.walkBelow (!config.isExcluded ·) location root)
    (htaken : isTaken config visited = true) : IsSource disk config root visited.path := by
  obtain ⟨⟨text, hfile⟩, hincluded⟩ := isTaken_iff.mp htaken
  obtain ⟨names, -, hkept, hnode, hpath⟩ := Disk.exists_names_of_mem_walkBelow hvisited
  have hsteps := Disk.isStep_of_node? hdisk.isPlain hnode
  have hbelow : visited.path.components = root.components ++ names.map .name := by
    rw [hpath]
    exact Path.components_below hsteps
  refine ⟨hpath ▸ hroot.below hsteps, ⟨location ++ names, text, ?_, hfile ▸ hnode⟩, ?_,
    includesFile_iff.mp hincluded, fun name hname => ?_⟩
  · rw [hbelow, hdisk.components_of_locate hroot hlocate, List.map_append]
    rfl
  · exact List.isPrefixOf_iff_prefix.mpr (hbelow ▸ List.prefix_append ..)
  · rw [hbelow, List.drop_left] at hname
    have hmem : name ∈ names := by simpa using hname
    exact isExcluded_eq_false_iff.mp (by simpa using hkept name hmem)

/-- On a tree, the walk comes to every source of the directory's path. -/
theorem exists_taken_of_isSource (hdisk : disk.IsProject) (htree : disk.IsTree)
    (hroot : root.IsNormal) (hlocate : disk.locate root = .ok (location, .directory))
    (hsource : IsSource disk config root file) :
    ∃ visited ∈ disk.walkBelow (!config.isExcluded ·) location root,
      isTaken config visited = true ∧ visited.path = file := by
  have hcomponents := hdisk.components_of_locate hroot hlocate
  obtain ⟨place, text, hfile, hnode⟩ := hsource.hasFile
  obtain ⟨names, rfl⟩ := hsource.exists_names hcomponents hfile
  -- a directory is no file
  have hne : names ≠ [] := by
    rintro rfl
    rw [List.append_nil, hdisk.node?_of_locate hroot hlocate] at hnode
    cases hnode
  have hsteps := Disk.isStep_of_node? hdisk.isPlain hnode
  have hbelow : file.components = root.components ++ names.map .name := by
    rw [hfile, hcomponents, List.map_append]
    rfl
  have hpath : root.below names = file := by
    refine (hroot.below hsteps).eq_of_same hsource.isNormal ?_
    show (root.below names).components = file.components
    rw [hbelow, Path.components_below hsteps]
  have hkept : ∀ name ∈ names, (!config.isExcluded name) = true := by
    intro name hname
    rw [Bool.not_eq_true', isExcluded_eq_false_iff]
    refine hsource.isKept name ?_
    rw [hbelow, List.drop_left]
    exact List.mem_map_of_mem hname
  refine ⟨_, Disk.mem_walkBelow_of_node? htree hne hkept hnode, ?_, hpath⟩
  exact isTaken_iff.mpr ⟨⟨text, rfl⟩, hpath ▸ includesFile_iff.mpr hsource.isIncluded⟩

/-- At a file, its path is taken if its extension is included. -/
theorem isSource_iff_of_file (hdisk : disk.IsProject) (htree : disk.IsTree) (hroot : root.IsNormal)
    {text : Option String} (hlocate : disk.locate root = .ok (location, .file text)) :
    IsSource disk config root file ↔ file = root ∧ config.includesFile root = true := by
  have hcomponents := hdisk.components_of_locate hroot hlocate
  have hnode := hdisk.node?_of_locate hroot hlocate
  constructor
  · intro hsource
    obtain ⟨place, found, hfile, hplace⟩ := hsource.hasFile
    obtain ⟨names, rfl⟩ := hsource.exists_names hcomponents hfile
    -- nothing stands below a file
    have hnil : names = [] := by
      by_contra hne
      rw [htree.node?_of_append hne hplace] at hnode
      cases hnode
    have heq : file = root := by
      refine hsource.isNormal.eq_of_same hroot ?_
      show file.components = root.components
      rw [hfile, hcomponents, hnil, List.append_nil]
    rw [← heq]
    exact ⟨rfl, includesFile_iff.mpr hsource.isIncluded⟩
  · rintro ⟨rfl, hincluded⟩
    refine ⟨hroot, ⟨location, text, hcomponents, hnode⟩, ?_, includesFile_iff.mp hincluded, ?_⟩
    · exact List.isPrefixOf_iff_prefix.mpr (List.prefix_refl _)
    · intro name hname
      rw [List.drop_length] at hname
      cases hname

theorem sourcesAt_of_walk {found : List Visited} (hpresent : disk.present root = true)
    (hwalk : disk.walk (!config.isExcluded ·) root = .ok found) :
    sourcesAt disk config root = .ok ((found.filter (isTaken config)).map (·.path)) := by
  unfold sourcesAt
  rw [if_pos hpresent, hwalk]

/-- A path that leads somewhere gives the files that it stands for. -/
theorem exists_sourcesAt (hdisk : disk.IsProject) (htree : disk.IsTree) (hroot : root.IsNormal)
    (config : Config) (hpresent : disk.present root = true) :
    ∃ found, sourcesAt disk config root = .ok found
      ∧ ∀ file, file ∈ found ↔ IsSource disk config root file := by
  cases hlocate : disk.locate root with
  | error error =>
    unfold Disk.present Disk.kind at hpresent
    rw [hlocate] at hpresent
    cases hpresent
  | ok found =>
    obtain ⟨location, node⟩ := found
    have hkind := hdisk.linkKind_of_locate hlocate
    cases node with
    | directory =>
      refine ⟨_, sourcesAt_of_walk hpresent (Disk.walk_of_directory hlocate hkind), fun file => ?_⟩
      -- the directory itself is not taken
      have hfirst : isTaken config ⟨root, .directory⟩ = false := rfl
      rw [List.filter_cons_of_neg (by simp [hfirst])]
      simp only [List.mem_map, List.mem_filter, and_assoc]
      constructor
      · rintro ⟨visited, hvisited, htaken, rfl⟩
        exact isSource_of_mem_walkBelow hdisk hroot hlocate hvisited htaken
      · exact exists_taken_of_isSource hdisk htree hroot hlocate
    | file text =>
      refine ⟨_, sourcesAt_of_walk hpresent (Disk.walk_of_file hlocate hkind), fun file => ?_⟩
      rw [isSource_iff_of_file hdisk htree hroot hlocate]
      simp only [List.mem_map, List.mem_filter, List.mem_singleton, isTaken_iff]
      constructor
      · rintro ⟨visited, ⟨rfl, -, hincluded⟩, rfl⟩
        exact ⟨rfl, hincluded⟩
      · rintro ⟨rfl, hincluded⟩
        exact ⟨_, ⟨rfl, ⟨text, rfl⟩, hincluded⟩, rfl⟩
    | link target =>
      exact absurd (hdisk.node?_of_locate hroot hlocate) (hdisk.node?_ne_link _ _)

/-- A path that leads nowhere is missing. -/
theorem sourcesAt_eq_error (config : Config) (h : disk.present root = false) :
    sourcesAt disk config root = .error (.fileNotFound root) := by
  unfold sourcesAt
  rw [h]
  rfl

theorem present_of_sourcesAt {found : List Path} (h : sourcesAt disk config root = .ok found) :
    disk.present root = true := by
  by_contra habsent
  rw [sourcesAt_eq_error config (by simpa using habsent)] at h
  cases h

/-- What a path gives is what it stands for. -/
theorem mem_sourcesAt_iff (hdisk : disk.IsProject) (htree : disk.IsTree) (hroot : root.IsNormal)
    {found : List Path} (h : sourcesAt disk config root = .ok found) :
    file ∈ found ↔ IsSource disk config root file := by
  obtain ⟨files, hfiles, hmem⟩ :=
    exists_sourcesAt hdisk htree hroot config (present_of_sourcesAt h)
  rw [h] at hfiles
  cases hfiles
  exact hmem file

theorem isNormal_of_sourcesAt (hdisk : disk.nodes.IsPlain) (hroot : root.IsNormal)
    {found : List Path} (h : sourcesAt disk config root = .ok found) :
    ∀ path ∈ found, path.IsNormal := by
  unfold sourcesAt at h
  split at h
  · split at h
    · next visited hwalk =>
      cases h
      intro path hpath
      obtain ⟨one, hone, rfl⟩ := List.mem_map.mp hpath
      exact Disk.isNormal_of_walk hdisk hroot hwalk (List.mem_of_mem_filter hone)
    · cases h
  · cases h

/-! ## In order, and once -/

/-- The order of paths is that of their lists of names. -/
theorem comesBefore_iff {a b : Path} : comesBefore a b = true ↔ names a ≤ names b := by
  unfold comesBefore
  rw [List.lex_eq_decide_lex, Bool.not_eq_true', decide_eq_false_iff_not]
  simp only [decide_eq_true_eq]
  show ¬names b < names a ↔ _
  exact not_lt

/-- Paths in normal form are given by their lists of names. -/
theorem eq_of_names_eq {a b : Path} (ha : a.IsNormal) (hb : b.IsNormal) (h : names a = names b) :
    a = b := by
  obtain ⟨as, hcomponents, -⟩ := Disk.exists_names_of_isNormal ha
  obtain ⟨bs, hothers, -⟩ := Disk.exists_names_of_isNormal hb
  have htexts (texts : List String) : (texts.map Component.name).map Component.text = texts := by
    rw [List.map_map]
    exact List.map_id texts
  unfold names at h
  rw [hcomponents, hothers, List.map_cons, List.map_cons, htexts, htexts] at h
  refine ha.eq_of_same hb ?_
  show a.components = b.components
  rw [hcomponents, hothers, (List.cons.inj h).2]

/-- A strictly increasing list is determined by what is in it. -/
theorem eq_of_increasing {paths others : List Path} (hpaths : paths.Pairwise (names · < names ·))
    (hothers : others.Pairwise (names · < names ·)) (h : ∀ path, path ∈ paths ↔ path ∈ others) :
    paths = others := by
  have hirrefl : Std.Irrefl fun a b : Path => names a < names b := ⟨fun _ => lt_irrefl _⟩
  have hantisymm : Std.Antisymm fun a b : Path => names a < names b :=
    ⟨fun _ _ hab hba => absurd hba hab.asymm⟩
  exact hpaths.eq_of_mem_iff hothers h

theorem subset_dropRepeated (paths : List Path) : dropRepeated paths ⊆ paths := by
  fun_induction dropRepeated paths with
  | case1 => exact List.Subset.refl _
  | case2 path => exact List.Subset.refl _
  | case3 first second rest hsame ih =>
    exact fun path hpath => by
      rcases List.mem_cons.mp (ih hpath) with rfl | hrest
      · exact List.mem_cons_self
      · exact List.mem_cons_of_mem _ (List.mem_cons_of_mem _ hrest)
  | case4 first second rest hsame ih => exact List.cons_subset_cons first ih

/-- Without its repetitions a sorted list of paths in normal form is strictly increasing, and the
same paths are in it. -/
theorem dropRepeated_spec {paths : List Path} (hnormal : ∀ path ∈ paths, path.IsNormal)
    (hsorted : paths.Pairwise (names · ≤ names ·)) :
    (dropRepeated paths).Pairwise (names · < names ·)
      ∧ ∀ path, path ∈ dropRepeated paths ↔ path ∈ paths := by
  fun_induction dropRepeated paths with
  | case1 => exact ⟨.nil, fun _ => Iff.rfl⟩
  | case2 path => exact ⟨List.pairwise_singleton .., fun _ => Iff.rfl⟩
  | case3 first second rest hsame ih =>
    obtain ⟨hfirst, hothers⟩ := List.forall_mem_cons.mp hnormal
    obtain ⟨hsecond, hrest⟩ := List.forall_mem_cons.mp hothers
    cases hfirst.eq_of_same hsecond hsame
    obtain ⟨hpairwise, hmem⟩ := ih (List.forall_mem_cons.mpr ⟨hfirst, hrest⟩)
      (List.pairwise_cons.mp hsorted).2
    exact ⟨hpairwise, fun path => by rw [hmem]; simp⟩
  | case4 first second rest hsame ih =>
    obtain ⟨hfirst, hothers⟩ := List.pairwise_cons.mp hsorted
    obtain ⟨hpairwise, hmem⟩ := ih (List.forall_mem_cons.mp hnormal).2 hothers
    refine ⟨List.pairwise_cons.mpr ⟨fun path hpath => ?_, hpairwise⟩, fun path => ?_⟩
    · have hlt : names first < names second := by
        refine lt_of_le_of_ne (hfirst second List.mem_cons_self) fun heq => hsame ?_
        rw [eq_of_names_eq (hnormal first (by simp)) (hnormal second (by simp)) heq]
        rfl
      rcases List.mem_cons.mp ((hmem path).mp hpath) with rfl | hrest
      · exact hlt
      · exact hlt.trans_le ((List.pairwise_cons.mp hothers).1 path hrest)
    · rw [List.mem_cons, hmem, ← List.mem_cons]

/-! ## All paths -/

theorem run_collectSources (disk : Disk) (config : Config) (cwd : Path) (paths : List Path) :
    collectSources disk config cwd paths
      = (paths.mapM fun path => sourcesAt disk config (resolvePath cwd path)).map fun found =>
        dropRepeated (found.flatten.mergeSort comesBefore) := rfl

/-- All collected paths are in normal form. -/
theorem isNormal_of_collectSources (hdisk : disk.nodes.IsPlain) (hcwd : cwd.isAbsolute = true)
    {paths sources : List Path} (h : collectSources disk config cwd paths = .ok sources) :
    ∀ path ∈ sources, path.IsNormal := by
  rw [run_collectSources] at h
  cases hfound : paths.mapM fun path => sourcesAt disk config (resolvePath cwd path) with
  | error error => rw [hfound] at h; cases h
  | ok found =>
    rw [hfound] at h
    cases h
    intro file hfile
    obtain ⟨results, hresults, hmem⟩ := exists_mapM_eq_ok (exists_of_mapM_eq_ok hfound)
    rw [hfound] at hresults
    cases hresults
    obtain ⟨list, hlist, hin⟩ :=
      List.mem_flatten.mp (List.mem_mergeSort.mp (subset_dropRepeated _ hfile))
    obtain ⟨path, -, hpath⟩ := (hmem list).mp hlist
    exact isNormal_of_sourcesAt hdisk (isNormal_resolvePath hcwd path) hpath file hin

theorem dropRepeated_of_pairwise {paths : List Path} (h : paths.Pairwise (¬·.Same ·)) :
    dropRepeated paths = paths := by
  fun_induction dropRepeated paths with
  | case1 => rfl
  | case2 path => rfl
  | case3 first second rest hsame ih =>
    exact absurd hsame ((List.pairwise_cons.mp h).1 second List.mem_cons_self)
  | case4 first second rest hsame ih => rw [ih (List.pairwise_cons.mp h).2]

/-- Files that are found in order, each once, are taken as they are. -/
theorem collectSources_of_sorted {paths : List Path} {found : List (List Path)}
    (hfound : (paths.mapM fun path => sourcesAt disk config (resolvePath cwd path)) = .ok found)
    (hsorted : found.flatten.Pairwise (comesBefore · · = true))
    (hdistinct : found.flatten.Pairwise (¬·.Same ·)) :
    collectSources disk config cwd paths = .ok found.flatten := by
  rw [run_collectSources, hfound]
  show Except.ok (dropRepeated (found.flatten.mergeSort comesBefore)) = _
  rw [List.mergeSort_of_pairwise hsorted, dropRepeated_of_pairwise hdistinct]

/-- Every path that is named leads somewhere. -/
def AllPresent (disk : Disk) (cwd : Path) (paths : List Path) : Prop :=
  ∀ path ∈ paths, disk.present (resolvePath cwd path) = true

instance (disk : Disk) (cwd : Path) (paths : List Path) : Decidable (AllPresent disk cwd paths) :=
  inferInstanceAs (Decidable (∀ path ∈ paths, _))

/-- If all paths lead somewhere, their files are collected, in order. -/
theorem exists_collectSources (hdisk : disk.IsProject) (htree : disk.IsTree)
    (hcwd : cwd.isAbsolute = true) (config : Config) {paths : List Path}
    (hpresent : AllPresent disk cwd paths) :
    ∃ files, collectSources disk config cwd paths = .ok files
      ∧ files.Pairwise (names · < names ·)
      ∧ ∀ file, file ∈ files
        ↔ ∃ path ∈ paths, IsSource disk config (resolvePath cwd path) file := by
  have hsources (path : Path) (hpath : path ∈ paths) :=
    exists_sourcesAt hdisk htree (isNormal_resolvePath hcwd path) config (hpresent path hpath)
  obtain ⟨found, hfound, hmem⟩ := exists_mapM_eq_ok
    (f := fun path => sourcesAt disk config (resolvePath cwd path)) fun path hpath =>
      (hsources path hpath).imp fun _ h => h.1
  have hflatten : ∀ file, file ∈ found.flatten.mergeSort comesBefore
      ↔ ∃ path ∈ paths, IsSource disk config (resolvePath cwd path) file := by
    intro file
    rw [List.mem_mergeSort, List.mem_flatten]
    constructor
    · rintro ⟨list, hlist, hfile⟩
      obtain ⟨path, hpath, heq⟩ := (hmem list).mp hlist
      obtain ⟨sources, hsource, hiff⟩ := hsources path hpath
      rw [heq] at hsource
      cases hsource
      exact ⟨path, hpath, (hiff file).mp hfile⟩
    · rintro ⟨path, hpath, hsource⟩
      obtain ⟨sources, heq, hiff⟩ := hsources path hpath
      exact ⟨sources, (hmem sources).mpr ⟨path, hpath, heq⟩, (hiff file).mpr hsource⟩
  have hsorted : (found.flatten.mergeSort comesBefore).Pairwise (names · ≤ names ·) := by
    refine (List.pairwise_mergeSort (fun a b c hab hbc => ?_) (fun a b => ?_) _).imp
      comesBefore_iff.mp
    · exact comesBefore_iff.mpr ((comesBefore_iff.mp hab).trans (comesBefore_iff.mp hbc))
    · rw [Bool.or_eq_true, comesBefore_iff, comesBefore_iff]
      exact le_total _ _
  obtain ⟨hpairwise, hkept⟩ := dropRepeated_spec
    (fun file hfile => ((hflatten file).mp hfile).choose_spec.2.isNormal) hsorted
  refine ⟨_, ?_, hpairwise, fun file => (hkept file).trans (hflatten file)⟩
  rw [run_collectSources, hfound]
  rfl

/-- The first path that leads nowhere is the error. -/
theorem collectSources_eq_error (hdisk : disk.IsProject) (htree : disk.IsTree)
    (hcwd : cwd.isAbsolute = true) (config : Config) {front back : List Path}
    (hfront : AllPresent disk cwd front) (hpath : disk.present (resolvePath cwd path) = false) :
    collectSources disk config cwd (front ++ path :: back)
      = .error (.fileNotFound (resolvePath cwd path)) := by
  have hfound : ∀ earlier ∈ front,
      ∃ found, sourcesAt disk config (resolvePath cwd earlier) = .ok found := by
    intro earlier hearlier
    obtain ⟨found, heq, -⟩ := exists_sourcesAt hdisk htree (isNormal_resolvePath hcwd earlier)
      config (hfront earlier hearlier)
    exact ⟨found, heq⟩
  have herror := mapM_eq_error (f := fun path => sourcesAt disk config (resolvePath cwd path))
    hfound (sourcesAt_eq_error config hpath) back
  rw [run_collectSources, herror]
  rfl

/-- Where files are collected, no path is missing. -/
theorem allPresent_of_collectSources {paths files : List Path}
    (h : collectSources disk config cwd paths = .ok files) : AllPresent disk cwd paths := by
  rw [run_collectSources] at h
  cases hfound : paths.mapM fun path => sourcesAt disk config (resolvePath cwd path) with
  | error error => rw [hfound] at h; cases h
  | ok found =>
    intro path hpath
    obtain ⟨sources, hsources⟩ := exists_of_mapM_eq_ok hfound path hpath
    exact present_of_sourcesAt hsources

/-- What collecting the files of some paths comes to. -/
structure Collects (disk : Disk) (config : Config) (cwd : Path) (paths : List Path) : Prop where
  /-- the first path that leads nowhere is the error -/
  missing : ∀ front path back, paths = front ++ path :: back → AllPresent disk cwd front →
    disk.present (resolvePath cwd path) = false →
      collectSources disk config cwd paths = .error (.fileNotFound (resolvePath cwd path))
  /-- otherwise the files of all paths are collected, strictly increasing by their names -/
  collected : AllPresent disk cwd paths →
    ∃ files, collectSources disk config cwd paths = .ok files
      ∧ files.Pairwise (names · < names ·)
      ∧ ∀ file, file ∈ files
        ↔ ∃ path ∈ paths, IsSource disk config (resolvePath cwd path) file
  /-- in which order and how often the paths are named makes no difference -/
  unordered : ∀ files others, collectSources disk config cwd paths = .ok files →
    (∀ path, path ∈ others ↔ path ∈ paths) → collectSources disk config cwd others = .ok files

/-- On a disk without links, collecting gives the files of all paths that are named. -/
theorem collects_collectSources (hdisk : disk.IsProject) (htree : disk.IsTree)
    (hcwd : cwd.isAbsolute = true) (config : Config) (paths : List Path) :
    Collects disk config cwd paths where
  missing := by
    rintro front path back rfl hfront hpath
    exact collectSources_eq_error hdisk htree hcwd config hfront hpath
  collected := exists_collectSources hdisk htree hcwd config
  unordered := by
    intro files others hfiles hsame
    have hpresent := allPresent_of_collectSources hfiles
    have hothers : AllPresent disk cwd others :=
      fun path hpath => hpresent path ((hsame path).mp hpath)
    obtain ⟨found, hfound, hfoundSorted, hfoundMem⟩ :=
      exists_collectSources hdisk htree hcwd config hpresent
    obtain ⟨again, hagain, hagainSorted, hagainMem⟩ :=
      exists_collectSources hdisk htree hcwd config hothers
    rw [hfiles] at hfound
    cases hfound
    have hmem : ∀ file, file ∈ again ↔ file ∈ files := fun file => by
      rw [hagainMem, hfoundMem]
      exact exists_congr fun path => and_congr_left' (hsame path)
    rw [hagain, eq_of_increasing hagainSorted hfoundSorted hmem]

end CommandLine

/-- Two directories whose names begin alike, one that is left out, and a file that is none of those
to transform. -/
def Disk.tangled : Disk where
  nodes := [(["p"], .directory), (["p", "a"], .directory),
    (["p", "a", "x.ts"], .file (some "")), (["p", "a-b"], .directory),
    (["p", "a-b", "x.ts"], .file (some "")), (["p", "a", "x.css"], .file (some "")),
    (["p", "dist"], .directory), (["p", "dist", "m.js"], .file (some ""))]
  cwd := ["p"]

namespace CommandLine

/-- A path is named twice and another one lies below it; the directory that is left out is named
itself. -/
theorem collects_tangled :
    Disk.tangled.IsProject ∧ Disk.tangled.IsTree ∧ (⟨"/p"⟩ : Path).isAbsolute = true
      ∧ (∃ files, collectSources Disk.tangled .default ⟨"/p"⟩ [⟨"."⟩, ⟨"a-b"⟩, ⟨"dist"⟩, ⟨"."⟩]
          = .ok files
        ∧ files.Pairwise (names · < names ·)
        ∧ (⟨"/p/dist/m.js"⟩ : Path) ∈ files ∧ (⟨"/p/a-b/x.ts"⟩ : Path) ∈ files
        ∧ (⟨"/p/a/x.css"⟩ : Path) ∉ files
        ∧ collectSources Disk.tangled .default ⟨"/p"⟩ [⟨"dist"⟩, ⟨"a-b"⟩, ⟨"."⟩] = .ok files)
      ∧ collectSources Disk.tangled .default ⟨"/p"⟩ [⟨"a"⟩, ⟨"no/../c"⟩, ⟨"d"⟩]
        = .error (.fileNotFound ⟨"/p/c"⟩) := by
  have hproject : Disk.tangled.IsProject := ⟨by decide +kernel, by decide +kernel⟩
  have htree : Disk.tangled.IsTree := ⟨by decide +kernel⟩
  have hcwd : (⟨"/p"⟩ : Path).isAbsolute = true := by decide
  have hall := collects_collectSources hproject htree hcwd .default
    [⟨"."⟩, ⟨"a-b"⟩, ⟨"dist"⟩, ⟨"."⟩]
  have hmissing := collects_collectSources hproject htree hcwd .default
    [⟨"a"⟩, ⟨"no/../c"⟩, ⟨"d"⟩]
  obtain ⟨files, hfiles, hsorted, hmem⟩ := hall.collected (by decide +kernel)
  refine ⟨hproject, htree, hcwd, ⟨files, hfiles, hsorted, ?_, ?_, ?_, ?_⟩, ?_⟩
  · have hfound : sourcesAt Disk.tangled .default (resolvePath ⟨"/p"⟩ ⟨"dist"⟩)
        = .ok [⟨"/p/dist/m.js"⟩] := by decide +kernel
    exact (hmem _).mpr ⟨⟨"dist"⟩, by simp, (mem_sourcesAt_iff hproject htree
      (isNormal_resolvePath hcwd _) hfound).mp (by simp)⟩
  · have hfound : sourcesAt Disk.tangled .default (resolvePath ⟨"/p"⟩ ⟨"."⟩)
        = .ok [⟨"/p/a/x.ts"⟩, ⟨"/p/a-b/x.ts"⟩] := by decide +kernel
    exact (hmem _).mpr ⟨⟨"."⟩, by simp, (mem_sourcesAt_iff hproject htree
      (isNormal_resolvePath hcwd _) hfound).mp (by simp)⟩
  · intro hfile
    obtain ⟨path, -, hsource⟩ := (hmem _).mp hfile
    obtain ⟨extension, hincluded, hextension⟩ := hsource.isIncluded
    have hcss : (⟨"/p/a/x.css"⟩ : Path).extension? = some "css" := by decide +kernel
    rw [hcss] at hextension
    cases hextension
    exact absurd hincluded (by decide)
  · exact hall.unordered files _ hfiles (by simp; tauto)
  · have herror := hmissing.missing [⟨"a"⟩] ⟨"no/../c"⟩ [⟨"d"⟩] rfl (by decide +kernel)
      (by decide +kernel)
    rw [herror]
    decide +kernel

end CommandLine

end DirectImports
