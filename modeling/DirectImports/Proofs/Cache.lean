import DirectImports.Barrel.Cache
import DirectImports.Proofs.Flatten.Segments

/-!
# What a cache remembers

`FileSystem.Served` says once what a call for a barrel does with the cache: the barrel is known, or
is flattened and fills the slot of its directory, or cannot be flattened and leaves that slot empty.

A barrel is remembered under its own directory, which is absolute and in normal form
(`BarrelCache.IsFiled`). Flattening keeps it so, whatever it flattens (`IsFiled.flattenOnce`), and
gives the barrel of the directory that was asked for, whether it was remembered or not.

As long as the files stay as they are, what is remembered is moreover what flattening would give
again (`BarrelCache.IsCurrent`).
-/

namespace DirectImports

/-! ## Running with a state -/

theorem run_run_bind {ε σ α β : Type} (x : ExceptT ε (StateM σ) α)
    (f : α → ExceptT ε (StateM σ) β) (s : σ) :
    (x >>= f).run.run s
      = match x.run.run s with
        | (.ok a, after) => (f a).run.run after
        | (.error error, after) => (.error error, after) := by
  show (match x.run.run s with | (result, after) => ExceptT.bindCont f result after) = _
  cases x.run.run s with
  | mk result after => cases result <;> rfl

theorem run_run_adapt {ε δ σ α : Type} (x : ExceptT ε (StateM σ) α) (f : ε → δ) (s : σ) :
    (x.adapt f).run.run s = ((x.run.run s).1.mapError f, (x.run.run s).2) := rfl

/-! ## Slots -/

namespace BarrelCache

variable {cache : BarrelCache} {dir key : Path} {barrel found : Barrel}

/-- What is remembered fills a slot. -/
theorem exists_of_get? (h : cache.get? dir = some barrel) :
    ∃ key, (key, some barrel) ∈ cache.entries ∧ key.Same dir := by
  have hslot : cache.slot? dir = some (some barrel) := Option.join_eq_some_iff.mp h
  obtain ⟨⟨key, slot⟩, hfind, rfl⟩ := Option.map_eq_some_iff.mp hslot
  exact ⟨key, List.mem_of_find?_eq_some hfind, by simpa using List.find?_some hfind⟩

/-- What holds of all slots, and of an empty slot for the directory, holds after it got one. -/
theorem forall_mem_reserve {P : Path × Option Barrel → Prop} (h : ∀ entry ∈ cache.entries, P entry)
    (hdir : P (dir, none)) : ∀ entry ∈ (cache.reserve dir).entries, P entry := by
  unfold reserve
  split
  · exact h
  · exact List.forall_mem_cons.mpr ⟨hdir, h⟩

/-- What holds of all slots, and stays if the directory's is filled, holds after it was filled. -/
theorem forall_mem_fill {P : Path × Option Barrel → Prop} (h : ∀ entry ∈ cache.entries, P entry)
    (hdir : ∀ key slot, P (key, slot) → key.Same dir → P (key, some barrel)) :
    ∀ entry ∈ (cache.fill dir barrel).entries, P entry := by
  intro entry hentry
  obtain ⟨old, hold, rfl⟩ := List.mem_map.mp hentry
  split
  · next hsame => exact hdir old.1 old.2 (h old hold) hsame
  · exact h old hold

/-- What is remembered is given back, and the rest is made and remembered. What cannot be made
leaves an empty slot. -/
theorem run_getOrInsert (dir : Path) (make : Unit → Except BarrelError Barrel)
    (cache : BarrelCache) :
    (getOrInsert dir make).run.run cache
      = match cache.get? dir with
        | some barrel => (.ok barrel, cache)
        | none =>
          match make () with
          | .ok barrel => (.ok barrel, (cache.reserve dir).fill dir barrel)
          | .error error => (.error error, cache.reserve dir) := by
  have hrun : (getOrInsert dir make).run.run cache
      = (match (cache.reserve dir).get? dir with
        | some barrel => pure barrel
        | none => do
          let barrel ← (make () : Except BarrelError Barrel)
          modify (·.fill dir barrel)
          return barrel : ExceptT BarrelError (StateM BarrelCache) Barrel).run.run
        (cache.reserve dir) := rfl
  rw [hrun, get?_reserve]
  cases hget : cache.get? dir with
  | some barrel =>
    rw [reserve_of_get? hget]
    rfl
  | none =>
    dsimp only
    cases make () <;> rfl

end BarrelCache

/-! ## Calls for barrels -/

namespace FileSystem

variable {fs : FileSystem} {path directory : Path} {cache after : BarrelCache} {barrel : Barrel}
  {result : Except BarrelError Barrel}

/-- What a call for the barrel of a path answers, and which cache it leaves. -/
inductive Served (fs : FileSystem) (path : Path) (cache : BarrelCache) :
    Except BarrelError Barrel → BarrelCache → Prop
  /-- the path cannot be made absolute -/
  | placeless {error : BarrelError} (habsolute : fs.absolute path = .error error) :
      Served fs path cache (.error error) cache
  | known {directory : Path} {barrel : Barrel} (habsolute : fs.absolute path = .ok directory)
      (hget : cache.get? directory = some barrel) : Served fs path cache (.ok barrel) cache
  | flattened {directory : Path} {barrel : Barrel} (habsolute : fs.absolute path = .ok directory)
      (hget : cache.get? directory = none) (hflatten : fs.flatten directory = .ok barrel) :
      Served fs path cache (.ok barrel) ((cache.reserve directory).fill directory barrel)
  | failed {directory : Path} {error : BarrelError} (habsolute : fs.absolute path = .ok directory)
      (hget : cache.get? directory = none) (hflatten : fs.flatten directory = .error error) :
      Served fs path cache (.error error) (cache.reserve directory)

theorem run_flattenOnce (fs : FileSystem) (path : Path) (cache : BarrelCache) :
    (fs.flattenOnce path).run.run cache
      = match fs.absolute path with
        | .ok directory =>
          (BarrelCache.getOrInsert directory fun _ => fs.flatten directory).run.run cache
        | .error error => (.error error, cache) := by
  unfold flattenOnce
  cases fs.absolute path <;> rfl

/-- Every call is served in one of these ways. -/
theorem served_of_run (h : (fs.flattenOnce path).run.run cache = (result, after)) :
    fs.Served path cache result after := by
  rw [run_flattenOnce] at h
  cases habsolute : fs.absolute path with
  | error error =>
    rw [habsolute] at h
    cases h
    exact .placeless habsolute
  | ok directory =>
    rw [habsolute] at h
    simp only [BarrelCache.run_getOrInsert] at h
    cases hget : cache.get? directory with
    | some barrel =>
      rw [hget] at h
      cases h
      exact .known habsolute hget
    | none =>
      rw [hget] at h
      cases hflatten : fs.flatten directory with
      | ok barrel =>
        rw [hflatten] at h
        cases h
        exact .flattened habsolute hget hflatten
      | error error =>
        rw [hflatten] at h
        cases h
        exact .failed habsolute hget hflatten

/-- A call that fails shows in no directory. -/
theorem Served.get?_of_error {error : BarrelError} (h : fs.Served path cache (.error error) after)
    (key : Path) : after.get? key = cache.get? key := by
  cases h with
  | placeless => rfl
  | failed => exact BarrelCache.get?_reserve cache _ key

theorem absolute_of_isNormal (hnormal : path.IsNormal) : fs.absolute path = .ok path := by
  rw [absolute, if_pos hnormal.1, hnormal.2]

/-- The barrel of an absolute directory in normal form has that directory. -/
theorem directory_of_flatten (hnormal : directory.IsNormal)
    (h : fs.flatten directory = .ok barrel) : barrel.directory = directory := by
  have habsolute := (log_of_flatten h).1
  rw [absolute_of_isNormal hnormal] at habsolute
  cases habsolute
  rfl

end FileSystem

/-! ## Remembered under their directories -/

/-- Every slot belongs to a directory in normal form, and so does the barrel in it. -/
def BarrelCache.IsFiled (cache : BarrelCache) : Prop :=
  ∀ entry ∈ cache.entries, entry.1.IsNormal ∧ ∀ barrel ∈ entry.2, barrel.directory = entry.1

namespace BarrelCache

variable {cache after : BarrelCache} {fs : FileSystem} {path directory : Path} {barrel : Barrel}
  {result : Except BarrelError Barrel}

theorem isFiled_empty : empty.IsFiled := by
  intro entry hentry
  cases hentry

/-- A remembered barrel has the directory that it was asked for by. -/
theorem IsFiled.directory_of_get? (h : cache.IsFiled) (hnormal : directory.IsNormal)
    (hget : cache.get? directory = some barrel) : barrel.directory = directory := by
  obtain ⟨key, hentry, hsame⟩ := exists_of_get? hget
  obtain ⟨hkey, hdirectory⟩ := h _ hentry
  rw [hdirectory barrel rfl]
  exact hkey.eq_of_same hnormal hsame

theorem IsFiled.reserve (h : cache.IsFiled) (hnormal : directory.IsNormal) :
    (cache.reserve directory).IsFiled :=
  forall_mem_reserve h ⟨hnormal, fun _ hbarrel => nomatch hbarrel⟩

theorem IsFiled.fill (h : cache.IsFiled) (hnormal : directory.IsNormal)
    (hdirectory : barrel.directory = directory) : (cache.fill directory barrel).IsFiled := by
  refine forall_mem_fill h fun key slot hkey hsame => ⟨hkey.1, fun found hfound => ?_⟩
  cases hfound
  rw [hdirectory]
  exact (hkey.1.eq_of_same hnormal hsame).symm

/-- A call whose path is made absolute and normal keeps a cache in order. -/
theorem IsFiled.of_served (h : cache.IsFiled) (hserved : fs.Served path cache result after)
    (hnormal : ∀ directory, fs.absolute path = .ok directory → directory.IsNormal) :
    after.IsFiled := by
  cases hserved with
  | placeless => exact h
  | known => exact h
  | flattened habsolute _ hflatten =>
    have hdirectory := hnormal _ habsolute
    exact (h.reserve hdirectory).fill hdirectory
      (FileSystem.directory_of_flatten hdirectory hflatten)
  | failed habsolute => exact h.reserve (hnormal _ habsolute)

/-- Flattening keeps a cache in order and gives the barrel of the directory. -/
theorem IsFiled.flattenOnce (hcache : cache.IsFiled) (hnormal : directory.IsNormal)
    (h : (fs.flattenOnce directory).run.run cache = (.ok barrel, after)) :
    after.IsFiled ∧ barrel.directory = directory := by
  have hserved := FileSystem.served_of_run h
  have habsolute : ∀ found, fs.absolute directory = .ok found → found = directory := by
    intro found hfound
    rw [FileSystem.absolute_of_isNormal hnormal] at hfound
    exact (Except.ok.inj hfound).symm
  refine ⟨hcache.of_served hserved fun found hfound => habsolute found hfound ▸ hnormal, ?_⟩
  cases hserved with
  | known hfound hget =>
    cases habsolute _ hfound
    exact hcache.directory_of_get? hnormal hget
  | flattened hfound _ hflatten =>
    cases habsolute _ hfound
    exact FileSystem.directory_of_flatten hnormal hflatten

/-! ## Caches that agree with the files -/

/-- Every slot belongs to a normal form, whose flattening gives the barrel in it. -/
def IsCurrent (cache : BarrelCache) (fs : FileSystem) : Prop :=
  ∀ entry ∈ cache.entries, entry.1.clean = entry.1 ∧ ∀ barrel ∈ entry.2,
    fs.flatten entry.1 = .ok barrel

theorem isCurrent_empty (fs : FileSystem) : empty.IsCurrent fs := by
  intro entry hentry
  cases hentry

/-- What is remembered under a normal form is what flattening gives. -/
theorem IsCurrent.flatten_of_get? (h : cache.IsCurrent fs) (hclean : directory.clean = directory)
    (hget : cache.get? directory = some barrel) : fs.flatten directory = .ok barrel := by
  obtain ⟨key, hentry, hsame⟩ := exists_of_get? hget
  obtain ⟨hkey, hflatten⟩ := h _ hentry
  rw [← Path.eq_of_same_of_clean hkey hclean hsame]
  exact hflatten barrel rfl

/-- A call keeps a cache in agreement with the files. -/
theorem IsCurrent.of_served (h : cache.IsCurrent fs) (hserved : fs.Served path cache result after) :
    after.IsCurrent fs := by
  cases hserved with
  | placeless => exact h
  | known => exact h
  | flattened habsolute _ hflatten =>
    have hclean := FileSystem.clean_of_absolute habsolute
    refine forall_mem_fill (forall_mem_reserve h ⟨hclean, fun _ hnone => nomatch hnone⟩)
      fun key slot hkey hsame => ⟨hkey.1, fun found hfound => ?_⟩
    cases hfound
    rw [Path.eq_of_same_of_clean hkey.1 hclean hsame]
    exact hflatten
  | failed habsolute =>
    exact forall_mem_reserve h
      ⟨FileSystem.clean_of_absolute habsolute, fun _ hnone => nomatch hnone⟩

/-- From a cache that agrees with the files, asking for a barrel gives what flattening gives. -/
theorem IsCurrent.flattenOnce (hcache : cache.IsCurrent fs)
    (h : (fs.flattenOnce path).run.run cache = (.ok barrel, after)) :
    ∃ directory, fs.absolute path = .ok directory ∧ fs.flatten directory = .ok barrel := by
  cases FileSystem.served_of_run h with
  | known habsolute hget =>
    have hclean := FileSystem.clean_of_absolute habsolute
    exact ⟨_, habsolute, hcache.flatten_of_get? hclean hget⟩
  | flattened habsolute _ hflatten => exact ⟨_, habsolute, hflatten⟩

end BarrelCache

end DirectImports
