import DirectImports.Barrel.Flatten

/-!
# Remembering barrels

A barrel is flattened once and then remembered under its directory. Every directory that is asked
for gets a slot. Only successes fill it: where flattening fails the slot stays empty, which nobody
who looks for barrels can tell from there being none. Nothing is forgotten until everything is
cleared. Directories are compared by their components.
-/

namespace DirectImports

/-- The slots of the directories asked for so far, the latest first; a slot is empty until a barrel
was flattened for it. -/
structure BarrelCache where
  entries : List (Path × Option Barrel)
deriving DecidableEq, Repr

namespace BarrelCache

/-- No slots. -/
def empty : BarrelCache := ⟨[]⟩

/-- The slot of a directory. -/
def slot? (cache : BarrelCache) (dir : Path) : Option (Option Barrel) :=
  (cache.entries.find? fun entry => decide (entry.1.Same dir)).map (·.2)

/-- The barrel remembered under a directory. -/
def get? (cache : BarrelCache) (dir : Path) : Option Barrel :=
  (cache.slot? dir).join

/-- A barrel is remembered under a directory. -/
def contains (cache : BarrelCache) (dir : Path) : Bool :=
  (cache.get? dir).isSome

/-- The slots that hold a barrel. -/
def filled (cache : BarrelCache) : List (Path × Option Barrel) :=
  cache.entries.filter (·.2.isSome)

/-- How many barrels are remembered. -/
def size (cache : BarrelCache) : Nat := cache.filled.length

/-- Gives a directory an empty slot if it has none. -/
def reserve (cache : BarrelCache) (dir : Path) : BarrelCache :=
  if (cache.slot? dir).isSome then cache else ⟨(dir, none) :: cache.entries⟩

/-- Puts a barrel into the slot of a directory. -/
def fill (cache : BarrelCache) (dir : Path) (barrel : Barrel) : BarrelCache :=
  ⟨cache.entries.map fun entry =>
    if entry.1.Same dir then (entry.1, some barrel) else entry⟩

/-- The barrel remembered under a directory, or the one that `make` yields, which is then
remembered. -/
def getOrInsert (dir : Path) (make : Unit → Except BarrelError Barrel) :
    ExceptT BarrelError (StateM BarrelCache) Barrel := do
  modify (·.reserve dir)
  match (← get).get? dir with
  | some barrel => return barrel
  | none =>
    let barrel ← (make () : Except BarrelError Barrel)
    modify (·.fill dir barrel)
    return barrel

/-! ## Looking up -/

variable {cache : BarrelCache} {dir other : Path} {barrel : Barrel}

theorem slot?_cons (entry : Path × Option Barrel) (entries : List (Path × Option Barrel))
    (dir : Path) :
    slot? ⟨entry :: entries⟩ dir
      = if entry.1.Same dir then some entry.2 else slot? ⟨entries⟩ dir := by
  by_cases h : entry.1.Same dir <;> simp [slot?, h]

theorem slot?_eq_none_iff :
    cache.slot? dir = none ↔ ∀ entry ∈ cache.entries, ¬entry.1.Same dir := by
  simp [slot?]

/-- Paths with the same components share a slot. -/
theorem slot?_of_same (h : dir.Same other) : cache.slot? dir = cache.slot? other := by
  have heq (entry : Path × Option Barrel) :
      decide (entry.1.Same dir) = decide (entry.1.Same other) :=
    decide_eq_decide.mpr ⟨fun hsame => Eq.trans hsame h, fun hsame => Eq.trans hsame h.symm⟩
  simp only [slot?, heq]

theorem get?_of_same (h : dir.Same other) : cache.get? dir = cache.get? other :=
  congrArg Option.join (slot?_of_same h)

/-- Whoever has a barrel has a slot. -/
theorem reserve_of_get? (h : cache.get? dir = some barrel) : cache.reserve dir = cache := by
  have hslot : cache.slot? dir = some (some barrel) := Option.join_eq_some_iff.mp h
  rw [reserve, hslot]
  rfl

theorem isSome_slot?_reserve (cache : BarrelCache) (dir : Path) :
    ((cache.reserve dir).slot? dir).isSome = true := by
  unfold reserve
  split
  · next hsome => exact hsome
  · rw [slot?_cons, if_pos (show dir.Same dir from rfl)]
    rfl

/-- An empty slot shows no barrel that was not there before. -/
theorem get?_reserve (cache : BarrelCache) (dir other : Path) :
    (cache.reserve dir).get? other = cache.get? other := by
  unfold reserve
  split
  · rfl
  · next hnone =>
    rw [get?, slot?_cons, get?]
    split
    · next hsame =>
      have hslot : cache.slot? other = none := by
        rw [← slot?_of_same hsame]
        simpa using hnone
      rw [hslot]
      rfl
    · rfl

theorem slot?_fill (cache : BarrelCache) (dir other : Path) (barrel : Barrel) :
    (cache.fill dir barrel).slot? other
      = if dir.Same other then (cache.slot? other).map fun _ => some barrel
        else cache.slot? other := by
  obtain ⟨entries⟩ := cache
  induction entries with
  | nil => simp [fill, slot?]
  | cons entry rest ih =>
    have hfill : fill ⟨entry :: rest⟩ dir barrel
        = ⟨(if entry.1.Same dir then (entry.1, some barrel) else entry)
            :: (fill ⟨rest⟩ dir barrel).entries⟩ := rfl
    have hkey : (if entry.1.Same dir then (entry.1, some barrel) else entry).1 = entry.1 := by
      split <;> rfl
    rw [hfill, slot?_cons, slot?_cons, hkey]
    by_cases hother : entry.1.Same other
    · -- the entry is filled if it belongs to the directory, which the other path tells as well
      have hiff : entry.1.Same dir ↔ dir.Same other :=
        ⟨fun h => Eq.trans h.symm hother, fun h => Eq.trans hother h.symm⟩
      simp only [if_pos hother, hiff, Option.map_some]
      split <;> rfl
    · rw [if_neg hother, if_neg hother]
      exact ih

/-- After a barrel is remembered its directory leads to it, and every other one where it led. -/
theorem get?_fill_reserve (cache : BarrelCache) (dir other : Path) (barrel : Barrel) :
    ((cache.reserve dir).fill dir barrel).get? other
      = if dir.Same other then some barrel else cache.get? other := by
  rw [get?, slot?_fill]
  split
  · next hsame =>
    have hslot := isSome_slot?_reserve cache dir
    rw [slot?_of_same hsame] at hslot
    obtain ⟨slot, hslot⟩ := Option.isSome_iff_exists.mp hslot
    rw [hslot]
    rfl
  · exact get?_reserve cache dir other

end BarrelCache

/-- Flattens the barrel in a directory unless it is remembered. -/
def FileSystem.flattenOnce (fs : FileSystem) (path : Path) :
    ExceptT BarrelError (StateM BarrelCache) Barrel := do
  let directory ← (fs.absolute path : Except BarrelError Path)
  BarrelCache.getOrInsert directory fun _ => fs.flatten directory

end DirectImports
