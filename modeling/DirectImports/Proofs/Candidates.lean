import DirectImports.Proofs.Lookup
import Mathlib.Data.Prod.Lex
import Mathlib.Data.String.Basic

/-!
# The least of several candidates

Candidates are compared by keys, and keys are linearly ordered: by rank, then by name. So of all
candidates lookup takes one that no other precedes (`Lookup.le_of_least?`), and if different
candidates have different keys, it is the only such one (`Lookup.least?_eq_some_iff`), in whatever
order they come (`Lookup.least?_eq_of_mem_iff`).

Candidates for a name without its extension are that name with an extension that is a word. Such
an extension has no dot, so cutting it off gives the name again
(`Lookup.stemOf_of_extensionAfter?`).
-/

namespace DirectImports.Lookup

/-! ## Keys -/

namespace Key

/-- The rank and the name, which decide in this order. -/
def toPair (key : Key) : Nat ×ₗ String :=
  toLex (key.rank, key.name)

theorem toPair_injective : Function.Injective toPair := by
  rintro ⟨rank, name⟩ ⟨rank', name'⟩ h
  simpa [toPair] using h

instance : LinearOrder Key :=
  LinearOrder.lift' toPair toPair_injective

theorem lt_iff {a b : Key} : a < b ↔ a.rank < b.rank ∨ a.rank = b.rank ∧ a.name < b.name :=
  Prod.Lex.lt_iff

theorem less_iff {a b : Key} : a.less b = true ↔ a < b := by
  rw [lt_iff]
  simp [less]

theorem lt_of_rank_lt {a b : Key} (h : a.rank < b.rank) : a < b :=
  lt_iff.mpr (Or.inl h)

theorem rank_le_of_le {a b : Key} (h : a ≤ b) : a.rank ≤ b.rank := by
  by_contra hlt
  exact absurd (lt_of_rank_lt (not_le.mp hlt)) (not_lt.mpr h)

end Key

/-- Different files with a given name have different keys. -/
theorem siblingKey_injective (base : String) : Function.Injective (siblingKey base) := by
  intro entry other h
  exact congrArg Key.name h

/-! ## The least candidate -/

variable {key : String → Key} {candidates : List String} {entry : String}

/-- No candidate precedes the one that is taken. -/
theorem le_of_least? (h : least? key candidates = some entry) :
    ∀ other ∈ candidates, key entry ≤ key other := by
  cases candidates with
  | nil => cases h
  | cons first rest =>
    cases h
    -- what is best so far precedes all that came before, and only gets better
    have hfold : ∀ best, ∀ other ∈ best :: rest, key (rest.foldl (fun best entry =>
        if (key entry).less (key best) then entry else best) best) ≤ key other := by
      induction rest with
      | nil =>
        intro best other hother
        rw [List.mem_singleton.mp hother]
        exact le_rfl
      | cons next rest ih =>
        intro best other hother
        rw [List.foldl_cons]
        split
        · next hless =>
          have hnext := ih next
          rcases List.mem_cons.mp hother with rfl | hmem
          · exact (hnext next List.mem_cons_self).trans (Key.less_iff.mp hless).le
          · exact hnext other hmem
        · next hless =>
          have hbest := ih best
          rw [Key.less_iff, not_lt] at hless
          rcases List.mem_cons.mp hother with rfl | hmem
          · exact hbest other List.mem_cons_self
          · rcases List.mem_cons.mp hmem with rfl | hrest
            · exact (hbest best List.mem_cons_self).trans hless
            · exact hbest other (List.mem_cons_of_mem _ hrest)
    exact hfold first

theorem exists_of_least? (h : entry ∈ candidates) :
    ∃ found, least? key candidates = some found := by
  cases candidates with
  | nil => cases h
  | cons first rest => exact ⟨_, rfl⟩

/-- If different candidates have different keys, the one is taken that precedes all others. -/
theorem least?_eq_some_iff (hkey : Function.Injective key) :
    least? key candidates = some entry
      ↔ entry ∈ candidates ∧ ∀ other ∈ candidates, key entry ≤ key other := by
  constructor
  · intro h
    exact ⟨mem_of_least? h, le_of_least? h⟩
  · rintro ⟨hmem, hle⟩
    obtain ⟨found, hfound⟩ := exists_of_least? hmem
    have heq : key found = key entry :=
      le_antisymm (le_of_least? hfound entry hmem) (hle found (mem_of_least? hfound))
    rw [hfound, hkey heq]

/-- Which candidate is taken does not depend on their order, nor on how often one is there. -/
theorem least?_eq_of_mem_iff (hkey : Function.Injective key) {others : List String}
    (h : ∀ entry, entry ∈ candidates ↔ entry ∈ others) :
    least? key candidates = least? key others := by
  cases hleast : least? key candidates with
  | none =>
    cases others with
    | nil => rfl
    | cons first rest =>
      have hfirst : first ∈ candidates := (h first).mpr List.mem_cons_self
      obtain ⟨found, hfound⟩ : ∃ found, least? key candidates = some found :=
        exists_of_least? hfirst
      rw [hfound] at hleast
      cases hleast
  | some entry =>
    obtain ⟨hmem, hle⟩ := (least?_eq_some_iff hkey).mp hleast
    symm
    rw [least?_eq_some_iff hkey]
    exact ⟨(h entry).mp hmem, fun other hother => hle other ((h other).mpr hother)⟩

/-! ## Extensions -/

/-- A file name without its extension. -/
def stemOf (entry : String) : String :=
  String.ofList (Path.cutExtension entry.toList).1

/-- The character may stand in an extension that is looked for. -/
def isWordChar (c : Char) : Bool :=
  Text.isAlphanumeric c || c == '_'

theorem extensionAfter?_eq_some {base entry extension : String}
    (h : extensionAfter? base entry = some extension) :
    entry.toList = base.toList ++ '.' :: extension.toList
      ∧ extension.toList.all isWordChar = true := by
  unfold extensionAfter? at h
  split at h
  · next found hdrop =>
    split at h
    · next hword =>
      cases h
      simp only [Bool.and_eq_true] at hword
      refine ⟨?_, ?_⟩
      · obtain ⟨rest, hrest⟩ := List.isPrefixOf_iff_prefix.mp hword.1.1
        rw [← hrest, List.drop_left] at hdrop
        rw [← hrest, hdrop, String.toList_ofList]
      · rw [String.toList_ofList]
        exact hword.2
    · cases h
  · cases h

/-- An extension after its last dot is cut off. -/
theorem cutExtension_append {stem extension : List Char} (hstem : stem ≠ [])
    (hdot : '.' ∉ extension) :
    Path.cutExtension (stem ++ '.' :: extension) = (stem, some extension) := by
  have hreverse : (stem ++ '.' :: extension).reverse
      = extension.reverse ++ '.' :: stem.reverse := by simp
  have htake : ((stem ++ '.' :: extension).reverse.takeWhile (· != '.')).reverse = extension := by
    rw [hreverse, List.takeWhile_append_of_pos]
    · simp
    · intro c hc
      have hne : c ≠ '.' := fun heq => hdot (by simpa [heq] using hc)
      simpa using hne
  unfold Path.cutExtension
  simp only [htake]
  have hlength : (stem ++ '.' :: extension).length - extension.length - 1 = stem.length := by
    rw [List.length_append, List.length_cons]
    omega
  rw [hlength, List.take_left, if_neg (by simp [hstem])]

/-- A name that has an extension after some base has that base for its stem. -/
theorem stemOf_of_extensionAfter? {base entry extension : String} (hbase : base ≠ "")
    (h : extensionAfter? base entry = some extension) : stemOf entry = base := by
  obtain ⟨htext, hword⟩ := extensionAfter?_eq_some h
  have hdot : '.' ∉ extension.toList := by
    intro hmem
    have hdotWord := List.all_eq_true.mp hword '.' hmem
    exact absurd hdotWord (by decide)
  have hne : base.toList ≠ [] := by
    simpa using hbase
  rw [stemOf, htext, cutExtension_append hne hdot, String.ofList_toList]

/-- What is left of a name is its beginning, and not empty. -/
theorem stemOf_isPrefix (entry : String) : (stemOf entry).toList <+: entry.toList := by
  rw [stemOf, String.toList_ofList, Path.cutExtension]
  split
  · exact List.prefix_rfl
  · exact List.take_prefix _ _

theorem stemOf_ne_empty {entry : String} (h : entry ≠ "") : stemOf entry ≠ "" := by
  have hne : entry.toList ≠ [] := by simpa using h
  intro hempty
  have hnil : (Path.cutExtension entry.toList).1 = [] := by
    simpa [stemOf] using congrArg String.toList hempty
  unfold Path.cutExtension at hnil
  simp only at hnil
  split at hnil
  · exact hne hnil
  · next hstem => exact hstem (Or.inl hnil)

/-! ## Index files among the files named `index` -/

/-- An extension with a rank is the one in that place. -/
theorem getElem?_of_rank? {extension : String} {rank : Nat} (h : rank? extension = some rank) :
    moduleExtensions[rank]? = some extension := by
  obtain ⟨hlt, heq, -⟩ := List.idxOf?_eq_some_iff.mp h
  rw [List.getElem?_eq_getElem hlt, heq]

theorem rank_lt {entry : String} {rank : Nat}
    (h : (extensionAfter? indexName entry).bind rank? = some rank) :
    rank < moduleExtensions.length := by
  obtain ⟨extension, -, hrank⟩ := Option.bind_eq_some_iff.mp h
  exact (List.getElem?_eq_some_iff.mp (getElem?_of_rank? hrank)).1

/-- A file `index` with a known extension is given by its rank. -/
theorem eq_of_rank {entry other : String} {rank : Nat}
    (hentry : (extensionAfter? indexName entry).bind rank? = some rank)
    (hother : (extensionAfter? indexName other).bind rank? = some rank) : entry = other := by
  obtain ⟨extension, hextension, hrank⟩ := Option.bind_eq_some_iff.mp hentry
  obtain ⟨otherExtension, hotherExtension, hotherRank⟩ := Option.bind_eq_some_iff.mp hother
  have hsame : extension = otherExtension :=
    Option.some.inj ((getElem?_of_rank? hrank).symm.trans (getElem?_of_rank? hotherRank))
  apply String.toList_injective
  rw [(extensionAfter?_eq_some hextension).1, (extensionAfter?_eq_some hotherExtension).1, hsame]

/-- Different names have different keys among index files. -/
theorem indexKey_injective : Function.Injective indexKey := by
  intro entry other h
  unfold indexKey at h
  cases hentry : (extensionAfter? indexName entry).bind rank? with
  | some rank =>
    cases hother : (extensionAfter? indexName other).bind rank? with
    | some otherRank =>
      simp only [hentry, hother, Key.mk.injEq, and_true] at h
      subst h
      exact eq_of_rank hentry hother
    | none =>
      -- a known extension ranks before all names that are ordered as they are
      simp only [hentry, hother, Key.mk.injEq] at h
      exact absurd h.1 (rank_lt hentry).ne
  | none =>
    cases hother : (extensionAfter? indexName other).bind rank? with
    | some otherRank =>
      simp only [hentry, hother, Key.mk.injEq] at h
      exact absurd h.1.symm (rank_lt hother).ne
    | none =>
      simp only [hentry, hother, Key.mk.injEq] at h
      exact h.2

/-- If an index file with a known extension precedes another index file, it also precedes that
among the files named `index`. -/
theorem siblingKey_le_of_indexKey_le {entry other : String} {rank : Nat}
    (hrank : (extensionAfter? indexName entry).bind rank? = some rank)
    (hle : indexKey entry ≤ indexKey other) :
    siblingKey indexName entry ≤ siblingKey indexName other := by
  have hfirst : (siblingKey indexName entry).rank = rank := by
    rw [siblingKey, hrank, Option.getD_some]
  cases hother : (extensionAfter? indexName other).bind rank? with
  | none =>
    have hlast : (siblingKey indexName other).rank = moduleExtensions.length := by
      rw [siblingKey, hother, Option.getD_none]
    exact (Key.lt_of_rank_lt (by rw [hfirst, hlast]; exact rank_lt hrank)).le
  | some otherRank =>
    have hsecond : (siblingKey indexName other).rank = otherRank := by
      rw [siblingKey, hother, Option.getD_some]
    have hranks : rank ≤ otherRank := by
      simpa only [indexKey, hrank, hother] using Key.rank_le_of_le hle
    rcases hranks.lt_or_eq with hlt | rfl
    · exact (Key.lt_of_rank_lt (by rw [hfirst, hsecond]; exact hlt)).le
    · rw [eq_of_rank hrank hother]

/-- A file named `index` is a candidate for the index file. -/
theorem occursIn_of_extensionAfter? {entry extension : String}
    (h : extensionAfter? indexName entry = some extension) :
    occursIn indexName.toList entry.toList = true := by
  rw [(extensionAfter?_eq_some h).1]
  rfl

end DirectImports.Lookup
