import DirectImports.Proofs.Flatten.Segments
import DirectImports.Proofs.Path.Entry
import Mathlib.Data.List.Perm.Subperm
import Mathlib.Data.Nat.Digits.Defs
import Mathlib.Data.Set.Card

/-!
# How deep a walk can go

A walk turns back where a chain comes to a file that it holds already. So it needs no more depth
than there are modules to be reached (`Modules.ReachesAtMost`), and a file system whose `depth` is
that large is bounded (`FileSystem.IsBounded`). Where a walk succeeds there are no more of them than
events in its log (`Modules.reachesAtMost_of_log`).

In a regular file system all of them stand at absolute paths in normal form, unless a file is the
root itself. So there are no more than such paths that can be read (`reachesAtMost_readable`).

Both kinds of stores are bounded. A fixture finds an absolute path by its names, so different files
have different entries (`Fixture.isBounded_view`). A disk, whose links may give one file many paths,
refuses long texts, and there are fewer short ones than its depth (`Disk.isBounded_view`).
-/

namespace DirectImports

/-- No more than `count` modules, compared by their components, are reached from `root`. -/
def Modules.ReachesAtMost (modules : Modules) (root : Path) (count : Nat) : Prop :=
  ∀ files : List Path, files.Pairwise (fun file other => ¬file.Same other) →
    (∀ file ∈ files, modules.Reaches root file ∧ ∃ surface, modules.surface file = .ok surface) →
    files.length ≤ count

/-- The depth is enough for all modules that the index file of a barrel reaches. -/
def FileSystem.IsBounded (fs : FileSystem) : Prop :=
  ∀ path directory root, fs.absolute path = .ok directory → fs.locate directory = .ok root →
    fs.modules.ReachesAtMost root fs.depth

/-- Files that differ by their keys are at most as many as there are keys. -/
theorem Path.length_le_of_key {files : List Path} {keys : List κ} (key : Path → κ)
    (hdiffer : files.Pairwise (fun file other => ¬file.Same other))
    (hmem : ∀ file ∈ files, key file ∈ keys)
    (hkey : ∀ file ∈ files, ∀ other ∈ files, key file = key other → file.Same other) :
    files.length ≤ keys.length := by
  have hnodup : (files.map key).Nodup := by
    refine List.pairwise_map.mpr (hdiffer.imp_of_mem fun hfile hother hnot heq => ?_)
    exact hnot (hkey _ hfile _ hother heq)
  have hsub : files.map key ⊆ keys := by
    intro k hk
    obtain ⟨file, hfile, rfl⟩ := List.mem_map.mp hk
    exact hmem file hfile
  rw [← List.length_map key]
  exact (hnodup.subperm hsub).length_le

/-- The components of the file that a visit comes to. -/
def Event.visited? (modules : Modules) : Event → Option (List Component)
  | .visit _ path _ _ => (modules.locate path).toOption.map Path.components
  | _ => none

/-- A walk that succeeds has been to all that is reached, so that is no more than it has events. -/
theorem Modules.reachesAtMost_of_log {modules : Modules} (hconsistent : modules.Consistent)
    {depth : Nat} {start root : Path} {events : List Event} (hstart : start.clean = start)
    (h : modules.log depth [] start "" false = .ok (root, events)) :
    modules.ReachesAtMost root events.length := by
  intro files hdiffer hfiles
  have hmem : ∀ file ∈ files, file.components ∈ events.filterMap (Event.visited? modules) := by
    intro file hfile
    obtain ⟨less, below, way, segment, viaWildcard, found, part, -, hvisit, -, hsame, hpart⟩ :=
      exists_log_of_reachesPast hconsistent hstart h (hfiles file hfile).1.reachesPast
    refine List.mem_filterMap.mpr ⟨_, hpart (visit_mem_of_log hvisit), ?_⟩
    rw [Event.visited?, (log_cases hvisit).1]
    exact congrArg some hsame
  have hcount := Path.length_le_of_key Path.components hdiffer hmem fun _ _ _ _ heq => heq
  exact hcount.trans (List.length_filterMap_le _ _)

/-! ## Paths that can be read -/

namespace FileSystem

variable {fs : FileSystem} {path file : Path}

/-- The absolute paths in normal form that can be read. -/
def readable (fs : FileSystem) : Set Path :=
  {path | path.IsNormal ∧ ∃ text, fs.read path = .ok text}

/-- In a regular file system a normal form leads to a normal form. -/
theorem IsRegular.isNormal_of_locate (hfs : fs.IsRegular) (hpath : path.IsNormal)
    (h : fs.locate path = .ok file) : file.IsNormal := by
  rcases locate_cases h with ⟨rfl, -⟩ | ⟨entries, entry, hlist, hmem, rfl, -⟩
    | ⟨base, parent, entries, entry, -, hparent, hlist, hmem, rfl, -⟩
  · exact hpath
  · exact hpath.join_name (hfs.isStep_of_list _ _ hlist entry hmem)
  · exact (hpath.parent? hparent).join_name (hfs.isStep_of_list _ _ hlist entry hmem)

/-- The directory of the file that a normal form leads to is absolute. -/
theorem IsRegular.isAbsolute_dir_of_locate (hfs : fs.IsRegular) (hroot : fs.HasRootDirectory)
    (hpath : path.IsNormal) (h : fs.locate path = .ok file) : file.dir.isAbsolute = true := by
  have hcomponents := Path.components_of_isAbsolute hpath.1
  rw [Path.isAbsolute_iff_components]
  rcases hfs.dir_of_locate hroot hpath h with hsame | ⟨hne, habove⟩
  · exact ⟨_, Eq.trans hsame hcomponents⟩
  · rw [habove, hcomponents]
    rw [hcomponents] at hne
    cases hsteps : Path.steps path.text.toList with
    | nil => rw [hsteps] at hne; exact absurd rfl hne
    | cons first rest => exact ⟨_, List.dropLast_cons_cons⟩

/-- Whatever is reached from a file at a normal form stands at one. -/
theorem IsRegular.exists_isNormal_of_reaches (hfs : fs.IsRegular) (hroot : fs.HasRootDirectory)
    {root : Path} (hpath : path.IsNormal) (hlocate : fs.locate path = .ok root)
    (h : fs.modules.Reaches root file) : ∃ way, way.IsNormal ∧ fs.locate way = .ok file := by
  induction h with
  | refl => exact ⟨path, hpath, hlocate⟩
  | tail _ hedge ih =>
    -- a specifier starts from the file's directory, which is absolute unless a file is the root
    obtain ⟨way, hway, hfile⟩ := ih
    obtain ⟨surface, source, -, -, -, hnext⟩ := hedge
    have habs := hfs.isAbsolute_dir_of_locate hroot hway hfile
    exact ⟨_, Path.isNormal_joinDir habs source, hnext⟩

/-- The modules that are reached from a file at a normal form stand at paths that can be read. -/
theorem IsRegular.mem_readable_of_reaches (hfs : fs.IsRegular) (hroot : fs.HasRootDirectory)
    {root : Path} {surface : Surface} (hpath : path.IsNormal) (hlocate : fs.locate path = .ok root)
    (h : fs.modules.Reaches root file) (hsurface : fs.modules.surface file = .ok surface) :
    file ∈ fs.readable := by
  obtain ⟨way, hway, hfound⟩ := hfs.exists_isNormal_of_reaches hroot hpath hlocate h
  obtain ⟨text, hread, -⟩ := surface_eq_ok_iff.mp hsurface
  exact ⟨hfs.isNormal_of_locate hway hfound, text, hread⟩

/-- No more modules are reached than there are paths that can be read. -/
theorem IsRegular.reachesAtMost_readable (hfs : fs.IsRegular) (hroot : fs.HasRootDirectory)
    (hfinite : fs.readable.Finite) {root : Path} (hpath : path.IsNormal)
    (hlocate : fs.locate path = .ok root) :
    fs.modules.ReachesAtMost root fs.readable.ncard := by
  intro files hdiffer hfiles
  have hmem : ∀ file ∈ files, file ∈ hfinite.toFinset.toList := by
    intro file hfile
    obtain ⟨hreach, surface, hsurface⟩ := hfiles file hfile
    simpa using hfs.mem_readable_of_reaches hroot hpath hlocate hreach hsurface
  have hcount := Path.length_le_of_key id hdiffer hmem fun file _ other _ heq =>
    congrArg Path.components heq
  rwa [Finset.length_toList, ← Set.ncard_eq_toFinset_card _ hfinite] at hcount

/-- A file system is bounded if its depth is enough for the paths that can be read. -/
theorem IsRegular.isBounded (hfs : fs.IsRegular) (hroot : fs.HasRootDirectory)
    (hfinite : fs.readable.Finite) (hdepth : fs.readable.ncard ≤ fs.depth) : fs.IsBounded := by
  intro path directory root hdirectory hlocate files hdiffer hfiles
  have hnormal : directory.IsNormal := isNormal_of_absolute hfs.isAbsolute_cwd hdirectory
  exact (hfs.reachesAtMost_readable hroot hfinite hnormal hlocate files hdiffer hfiles).trans hdepth

end FileSystem

/-! ## Fixtures -/

/-- The location of a path without `..` holds its names. -/
theorem Location.components_of_isRooted {path : Path} (h : path.IsRooted) :
    path.components = .root :: (ofText path.text).map .name := by
  have hsteps := Path.components_of_isAbsolute h.isAbsolute
  obtain ⟨names, hnames, hcomponents⟩ := h
  obtain ⟨texts, rfl⟩ : ∃ texts : List String, names = texts.map .name := by
    have hid : names.map (Component.name ∘ Component.text) = names.map id := by
      refine List.map_congr_left fun c hc => ?_
      have hname := (hnames c hc).1
      cases c with
      | name => rfl
      | root => cases hname
      | current => cases hname
      | parent => cases hname
    exact ⟨names.map Component.text, by rw [List.map_map, hid, List.map_id]⟩
  have hlocation : ofText path.text = texts := by
    have hfound : Path.steps path.text.toList = texts.map .name := by
      rw [hcomponents] at hsteps
      exact (List.cons.inj hsteps).2.symm
    rw [ofText_eq_foldl, hfound, List.foldl_map]
    simp [Component.text]
  rw [hlocation, hcomponents]

namespace Table

theorem mem_of_get?_eq_some {table : Table α} {location : Location} {value : α}
    (h : table.get? location = some value) : (location, value) ∈ table := by
  obtain ⟨⟨key, found⟩, hfind, rfl⟩ := Option.map_eq_some_iff.mp h
  have hkey : key = location := by simpa using List.find?_some hfind
  rw [← hkey]
  exact List.mem_of_find?_eq_some hfind

end Table

namespace Fixture

variable {fixture : Fixture}

/-- Paths without `..` at one location have the same components. -/
theorem same_of_locationOf {p q : Path} (hp : p.IsRooted) (hq : q.IsRooted)
    (h : fixture.locationOf p = fixture.locationOf q) : p.Same q := by
  have hlocation {path : Path} (hpath : path.IsRooted) :
      fixture.locationOf path = Location.ofText path.text := by
    have habs : ¬Path.IsRelative path.text := by
      simpa [Path.isAbsolute, Path.IsRelative] using hpath.isAbsolute
    rw [locationOf, Path.join_of_absolute _ habs]
  rw [hlocation hp, hlocation hq] at h
  show p.components = q.components
  rw [Location.components_of_isRooted hp, Location.components_of_isRooted hq, h]

/-- The locations of the files that can be read. -/
def texts (fixture : Fixture) : List Location :=
  fixture.entries.filterMap fun entry =>
    match entry.2 with
    | .file _ => some entry.1
    | _ => none

/-- What can be read has the location of a text. -/
theorem locationOf_mem_texts {path : Path} (h : path ∈ fixture.view.readable) :
    fixture.locationOf path ∈ fixture.texts := by
  obtain ⟨-, text, hread⟩ := h
  have hentry := Table.mem_of_get?_eq_some (read_eq_ok_iff.mp hread)
  exact List.mem_filterMap.mpr ⟨_, hentry, rfl⟩

theorem injOn_locationOf_readable (fixture : Fixture) :
    Set.InjOn fixture.locationOf fixture.view.readable := by
  intro p hp q hq heq
  exact hp.1.eq_of_same hq.1 (same_of_locationOf hp.1.isRooted hq.1.isRooted heq)

/-- Only finitely many normal forms can be read. -/
theorem finite_readable (fixture : Fixture) : fixture.view.readable.Finite :=
  Set.Finite.of_injOn (fun _ => locationOf_mem_texts) fixture.injOn_locationOf_readable
    (List.finite_toSet fixture.texts)

/-- There are no more of them than texts. -/
theorem ncard_readable_le (fixture : Fixture) :
    fixture.view.readable.ncard ≤ fixture.texts.length := by
  have htexts : fixture.view.readable.ncard ≤ {location | location ∈ fixture.texts}.ncard :=
    Set.ncard_le_ncard_of_injOn _ (fun _ => locationOf_mem_texts)
      fixture.injOn_locationOf_readable (List.finite_toSet fixture.texts)
  have hlength : {location | location ∈ fixture.texts}.ncard ≤ fixture.texts.length := by
    rw [← List.coe_toFinset, Set.ncard_coe_finset]
    exact List.toFinset_card_le fixture.texts
  exact htexts.trans hlength

/-- A fixture with an absolute working directory and plain names is bounded, unless a file stands
at its root. -/
theorem isBounded_view (hfs : fixture.view.IsRegular) (hroot : fixture.view.HasRootDirectory) :
    fixture.view.IsBounded := by
  refine hfs.isBounded hroot fixture.finite_readable ?_
  calc fixture.view.readable.ncard
      ≤ fixture.texts.length := fixture.ncard_readable_le
    _ ≤ fixture.entries.length := List.length_filterMap_le _ _
    _ ≤ fixture.view.depth := Nat.le_mul_of_pos_right _ (by simp)

end Fixture

/-! ## Disks -/

/-- The bytes of a text as a number, closed by a one that keeps its length. -/
def textCode (text : String) : Nat :=
  Nat.ofDigits 256 (text.toByteArray.data.toList.map UInt8.toNat ++ [1])

theorem digit_lt_of_mem_bytes (bytes : List UInt8) :
    ∀ digit ∈ bytes.map UInt8.toNat ++ [1], digit < 256 := by
  intro digit hdigit
  rcases List.mem_append.mp hdigit with hbyte | hone
  · obtain ⟨byte, -, rfl⟩ := List.mem_map.mp hbyte
    exact byte.toNat_lt
  · rw [List.mem_singleton.mp hone]
    decide

/-- Short texts have small codes. -/
theorem textCode_lt {text : String} {bound : Nat} (h : text.utf8ByteSize < bound) :
    textCode text < 256 ^ bound := by
  have hlt := Nat.ofDigits_lt_base_pow_length (by decide)
    (digit_lt_of_mem_bytes text.toByteArray.data.toList)
  refine lt_of_lt_of_le hlt (Nat.pow_le_pow_right (by decide) ?_)
  rw [List.length_append, List.length_map]
  exact h

theorem textCode_injective : Function.Injective textCode := by
  intro text other h
  have hdigits (bytes : List UInt8) :
      Nat.digits 256 (Nat.ofDigits 256 (bytes.map UInt8.toNat ++ [1]))
        = bytes.map UInt8.toNat ++ [1] :=
    Nat.digits_ofDigits 256 (by decide) _ (digit_lt_of_mem_bytes bytes) (by simp)
  have hbytes := congrArg (Nat.digits 256) h
  simp only [textCode, hdigits, List.append_cancel_right_eq] at hbytes
  have hlist := List.map_injective_iff.mpr (fun _ _ => UInt8.toNat_inj.mp) hbytes
  exact String.toByteArray_inj.mp (ByteArray.ext (Array.toList_inj.mp hlist))

namespace Disk

variable {disk : Disk}

/-- A disk reads no long path. -/
theorem utf8ByteSize_lt_of_read {path : Path} {text : String}
    (h : disk.view.read path = .ok text) : path.text.utf8ByteSize < maxPathBytes := by
  by_contra hlong
  have hfind : ∃ error, disk.find true path = .error error := by
    unfold find
    split
    · exact ⟨_, rfl⟩
    · split
      · exact ⟨_, rfl⟩
      · rw [if_pos (Nat.le_of_not_lt hlong)]
        exact ⟨_, rfl⟩
  obtain ⟨error, herror⟩ := hfind
  simp only [view, readText, locate, herror] at h
  cases h

/-- Every disk is bounded. -/
theorem isBounded_view (disk : Disk) : disk.view.IsBounded := by
  intro path directory root _ _ files hdiffer hfiles
  have hcode : ∀ file ∈ files, textCode file.text ∈ List.range (256 ^ maxPathBytes) := by
    intro file hfile
    obtain ⟨surface, hsurface⟩ := (hfiles file hfile).2
    obtain ⟨text, hread, -⟩ := FileSystem.surface_eq_ok_iff.mp hsurface
    exact List.mem_range.mpr (textCode_lt (utf8ByteSize_lt_of_read hread))
  have hcount := Path.length_le_of_key (fun file => textCode file.text) hdiffer hcode
    fun file _ other _ heq => by
      rw [show file = other from congrArg Path.mk (textCode_injective heq)]
      rfl
  rw [List.length_range] at hcount
  unfold view
  -- only the form of the power matters, so it is kept from being computed
  generalize maxPathBytes = bound at hcount ⊢
  exact hcount

end Disk

end DirectImports
