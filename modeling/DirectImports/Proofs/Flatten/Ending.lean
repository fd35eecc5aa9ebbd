import DirectImports.Proofs.Flatten.Log

/-!
# Walks that come to an end

How deep a walk may go is a bound of the model: a walk that would go deeper is cut off with an error
of its own (`Ends`). A walk that was not cut off is not changed by more depth
(`Modules.log_eq_of_ends`). So whether flattening comes to an end, and with which result, is told
without any fixed depth (`FileSystem.FlattensTo`): it is what every depth gives that is large
enough. Where no depth is large enough, flattening has no result.
-/

namespace DirectImports

/-- A walk was not cut off. -/
def Ends (result : Except BarrelError α) : Prop :=
  ∀ path, result ≠ .error (.tooDeep path)

theorem ends_ok (a : α) : Ends (.ok a) := fun _ h => nomatch h

theorem Ends.of_map {result : Except BarrelError α} {f : α → β} (h : Ends (result.map f)) :
    Ends result := by
  rintro path rfl
  exact h path rfl

theorem Ends.of_bind {x : Except BarrelError α} {f : α → Except BarrelError β}
    (h : Ends (x >>= f)) : Ends x := by
  rintro path rfl
  exact h path rfl

/-- Two parts that are each the same where they end are the same together. -/
theorem Ends.bind_eq {x y : Except BarrelError α} {f g : α → Except BarrelError β}
    (h : Ends (x >>= f)) (hx : Ends x → y = x) (hf : ∀ a, Ends (f a) → g a = f a) :
    y >>= g = x >>= f := by
  cases x with
  | error cause =>
    have hcause : Ends (.error cause : Except BarrelError α) := by
      rintro path ⟨⟩
      exact h path rfl
    rw [hx hcause]
    rfl
  | ok a =>
    rw [hx (ends_ok a)]
    exact hf a h

/-! ## More depth -/

namespace Place

variable {place : Place} {descend deeper : Path → String → Except BarrelError (List Event)}

/-- A statement that is gone through to its end is not changed by more depth. -/
theorem events_eq_of_ends
    (h : ∀ target segment, Ends (descend target segment) →
      deeper target segment = descend target segment)
    {declaration : Declaration} (hends : Ends (place.events descend declaration)) :
    place.events deeper declaration = place.events descend declaration := by
  cases declaration with
  | wildcard source =>
    unfold events at hends ⊢
    by_cases hpath : Specifier.isPath source = true
    · simp only [if_pos hpath] at hends ⊢
      exact h _ _ hends
    · simp only [if_neg hpath]
  | named source => cases source <;> rfl
  | star => rfl
  | declared => rfl
  | default => rfl
  | other => rfl

theorem eventsOf_eq_of_ends
    (h : ∀ target segment, Ends (descend target segment) →
      deeper target segment = descend target segment)
    {declarations : List Declaration} (hends : Ends (place.eventsOf descend declarations)) :
    place.eventsOf deeper declarations = place.eventsOf descend declarations := by
  induction declarations with
  | nil => rfl
  | cons declaration rest ih =>
    exact hends.bind_eq (events_eq_of_ends h) fun first hrest =>
      hrest.bind_eq ih fun others _ => rfl

end Place

/-- A walk that was not cut off is the same with more depth. -/
theorem Modules.log_eq_of_ends {modules : Modules} {depth more : Nat} (hle : depth ≤ more)
    {chain : List Path} {path : Path} {segment : String} {viaWildcard : Bool}
    (hends : Ends (modules.log depth chain path segment viaWildcard)) :
    modules.log more chain path segment viaWildcard
      = modules.log depth chain path segment viaWildcard := by
  -- on the smaller depth; the walk looks at the larger one only where it goes on
  induction depth generalizing more chain path segment viaWildcard with
  | zero => exact absurd rfl (hends path)
  | succ depth ih =>
    obtain ⟨more, rfl⟩ : ∃ less, more = less + 1 := Nat.exists_eq_add_one.mpr (by omega)
    unfold log at hends ⊢
    refine hends.bind_eq (fun _ => rfl) fun file hfile => ?_
    split at hfile
    · next hon => rw [if_pos hon, if_pos hon]
    · next hoff =>
      rw [if_neg hoff, if_neg hoff]
      refine hfile.bind_eq (fun _ => rfl) fun surface hsurface => ?_
      refine hsurface.bind_eq (Place.eventsOf_eq_of_ends fun target segment hdescend => ?_)
        fun events _ => rfl
      exact hdescend.bind_eq (ih (by omega)) fun logged _ => rfl

/-! ## Enough depth -/

namespace FileSystem

variable {fs : FileSystem} {path : Path} {result : Except BarrelError Barrel} {depth : Nat}

/-- More depth changes no barrel whose walk was not cut off. -/
theorem flatten_withDepth_of_ends {more : Nat} (hle : depth ≤ more)
    (hends : Ends ((fs.withDepth depth).flatten path)) :
    (fs.withDepth more).flatten path = (fs.withDepth depth).flatten path := by
  refine hends.bind_eq (fun _ => rfl) fun directory hvisit => ?_
  refine hvisit.bind_eq (fun hlog => ?_) fun _ _ => rfl
  rw [Modules.visit_eq_log] at hlog ⊢
  rw [Modules.visit_eq_log]
  exact congrArg _ (Modules.log_eq_of_ends (Nat.succ_le_succ hle) hlog.of_map)

/-- Flattening comes to an end with a result, whatever the depth, if that is large enough. -/
def FlattensTo (fs : FileSystem) (path : Path) (result : Except BarrelError Barrel) : Prop :=
  Ends result ∧ ∃ depth, ∀ more, depth ≤ more → (fs.withDepth more).flatten path = result

/-- What is flattened at some depth without being cut off is the result. -/
theorem flattensTo_of_ends (h : (fs.withDepth depth).flatten path = result) (hends : Ends result) :
    fs.FlattensTo path result := by
  rw [← h] at hends ⊢
  exact ⟨hends, depth, fun _ hle => flatten_withDepth_of_ends hle hends⟩

/-- Flattening has one result. -/
theorem FlattensTo.unique {other : Except BarrelError Barrel} (h : fs.FlattensTo path result)
    (hother : fs.FlattensTo path other) : result = other := by
  obtain ⟨-, depth, hresult⟩ := h
  obtain ⟨-, more, hmore⟩ := hother
  exact (hresult _ (Nat.le_max_left depth more)).symm.trans (hmore _ (Nat.le_max_right depth more))

theorem FlattensTo.exists_depth (h : fs.FlattensTo path result) :
    ∃ depth, (fs.withDepth depth).flatten path = result :=
  ⟨_, h.2.choose_spec _ (Nat.le_refl _)⟩

/-! ## What is never cut off -/

theorem ends_absolute (fs : FileSystem) (path : Path) : Ends (fs.absolute path) := by
  intro found h
  unfold absolute at h
  split at h
  · cases h
  · split at h <;> cases h

theorem ends_locate (fs : FileSystem) (path : Path) : Ends (fs.locate path) := by
  intro found h
  unfold locate at h
  split at h
  · split at h
    · unfold locateIndex at h
      split at h
      · split at h <;> cases h
      · cases h
    · cases h
  · split at h
    · unfold locateSibling at h
      split at h
      · split at h
        · dsimp only at h
          split at h <;> cases h
        · split at h <;> cases h
      · cases h
    · cases h

theorem ends_surface (fs : FileSystem) (file : Path) : Ends (fs.modules.surface file) := by
  intro found h
  simp only [modules] at h
  split at h
  · next source hread =>
    cases hparse : Surface.parse file source with
    | ok surface => rw [hparse] at h; cases h
    | error faults => rw [hparse] at h; cases h
  · cases h

end FileSystem

end DirectImports
