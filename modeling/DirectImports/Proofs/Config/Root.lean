import DirectImports.Config.Validation
import DirectImports.Proofs.Path.Climb
import DirectImports.Proofs.Cache

/-!
# Barrels and the project's root

A configuration is accepted if it names barrels and extensions, and each of them passes its check
(`Config.validate_eq_ok_iff`). The check of an absolute barrel looks at its components as they are
written: the first of them must be those of an absolute root. Only later are `.` and `..` resolved.
So the barrel lies in the root after that if and only if it comes back through every name that it
climbs out of (`Config.startsWith_root_iff_of_validate`), and it may lie anywhere else
(`Config.validate_climbing`).
-/

namespace DirectImports

/-- Checks in a row succeed if each of them does. -/
theorem forM_eq_ok_iff {check : α → Except ε Unit} {items : List α} :
    items.forM check = .ok () ↔ ∀ item ∈ items, check item = .ok () := by
  induction items with
  | nil => exact iff_of_true rfl (by simp)
  | cons item rest ih =>
    rw [List.forall_mem_cons, ← ih]
    show (check item >>= fun _ => rest.forM check) = .ok () ↔ _
    cases check item with
    | error error => exact iff_of_false (fun h => by cases h) (fun h => by cases h.1)
    | ok done => exact (and_iff_right rfl).symm

namespace Config

variable {config : Config} {barrel : Path} {extension : String}

/-! ## What is accepted -/

theorem validateBarrel_eq_ok_iff :
    config.validateBarrel barrel = .ok ()
      ↔ barrel.text ≠ "" ∧ (barrel.isAbsolute = true → config.isInsideRoot barrel = true) := by
  unfold validateBarrel
  by_cases hempty : barrel.text = ""
  · rw [if_pos hempty]
    exact iff_of_false (fun h => by cases h) (fun h => h.1 hempty)
  · rw [if_neg hempty, and_iff_right hempty]
    cases barrel.isAbsolute <;> cases config.isInsideRoot barrel <;> simp

theorem validateExtension_eq_ok_iff :
    validateExtension extension = .ok () ↔ extension ∈ moduleExtensions := by
  unfold validateExtension
  rw [← List.contains_iff_mem]
  cases moduleExtensions.contains extension <;> simp

/-- An accepted configuration names barrels and extensions, which all pass their checks. -/
theorem validate_eq_ok_iff :
    config.validate = .ok ()
      ↔ config.barrels ≠ []
        ∧ (∀ barrel ∈ config.barrels, barrel.text ≠ ""
          ∧ (barrel.isAbsolute = true → config.isInsideRoot barrel = true))
        ∧ config.includeExtensions ≠ []
        ∧ ∀ extension ∈ config.includeExtensions, extension ∈ moduleExtensions := by
  simp only [← validateBarrel_eq_ok_iff, ← validateExtension_eq_ok_iff, ← forM_eq_ok_iff]
  unfold validate
  cases hbarrels : config.barrels with
  | nil => exact iff_of_false (fun h => by cases h) (fun h => h.1 rfl)
  | cons first others =>
    rw [and_iff_right (by simp)]
    cases (first :: others).forM config.validateBarrel with
    | error error => exact iff_of_false (fun h => by cases h) (fun h => by cases h.1)
    | ok done =>
      rw [and_iff_right rfl]
      cases hextensions : config.includeExtensions with
      | nil => exact iff_of_false (fun h => by cases h) (fun h => h.1 rfl)
      | cons extension rest => exact (and_iff_right (by simp)).symm

/-! ## Absolute barrels -/

theorem exists_root_of_isInsideRoot (h : config.isInsideRoot barrel = true) :
    ∃ root, config.root = some root ∧ root.isAbsolute = true ∧ barrel.startsWith root = true := by
  unfold isInsideRoot at h
  cases hroot : config.root with
  | none =>
    rw [hroot] at h
    cases h
  | some root =>
    rw [hroot, Option.any_some, Bool.and_eq_true] at h
    exact ⟨root, rfl, h⟩

/-- An absolute path is made absolute by resolving it. -/
theorem absolute_of_isAbsolute {path : Path} (h : path.isAbsolute = true) (fs : FileSystem) :
    fs.absolute path = .ok path.clean := by
  unfold FileSystem.absolute
  rw [if_pos h]

/-- An absolute barrel of an accepted configuration begins with the components of an absolute root.
Resolved, as a redirector has it, it lies in the resolved root if and only if it comes back through
all names that it climbs out of. -/
theorem startsWith_root_iff_of_validate (h : config.validate = .ok ())
    (hmem : barrel ∈ config.barrels) (habsolute : barrel.isAbsolute = true) :
    ∃ root way, config.root = some root ∧ root.isAbsolute = true
      ∧ barrel.components = root.components ++ way
      ∧ ∀ (fs : FileSystem) (base : Path), ∃ dir place,
        fs.absolute (config.projectRoot base) = .ok dir
          ∧ fs.absolute ((config.projectRoot base).join barrel.text) = .ok place
          ∧ (place.startsWith dir = true ↔ root.Regains way) := by
  obtain ⟨-, hbarrels, -, -⟩ := validate_eq_ok_iff.mp h
  obtain ⟨root, hroot, habsoluteRoot, hstarts⟩ :=
    exists_root_of_isInsideRoot ((hbarrels barrel hmem).2 habsolute)
  obtain ⟨way, hway, hsteps⟩ :=
    Path.exists_way_of_startsWith habsolute habsoluteRoot hstarts
  refine ⟨root, way, hroot, habsoluteRoot, hway, fun fs base => ⟨root.clean, barrel.clean, ?_, ?_,
    Path.startsWith_clean_iff habsoluteRoot hway hsteps⟩⟩
  · -- an absolute root does not depend on the directory of the configuration
    have hproject : config.projectRoot base = root := by
      unfold projectRoot
      rw [hroot]
      exact Path.join_of_absolute base (by simpa [← Path.isAbsolute_eq_false_iff])
    rw [hproject, absolute_of_isAbsolute habsoluteRoot]
  · rw [Path.join_of_absolute _ (by simpa [← Path.isAbsolute_eq_false_iff]),
      absolute_of_isAbsolute habsolute]

/-- A configuration whose barrels go up from the root, and one of them comes back. -/
def climbing : Config :=
  ⟨[⟨"/proj/../proj/ui"⟩, ⟨"/proj/../etc"⟩], some ⟨"/proj"⟩, .relative, ["ts"], []⟩

theorem startsWith_root_climbing :
    climbing.validate = .ok ()
      ∧ (∃ dir place, (Disk.view ⟨[], []⟩).absolute (climbing.projectRoot ⟨"/proj"⟩) = .ok dir
        ∧ (Disk.view ⟨[], []⟩).absolute
            ((climbing.projectRoot ⟨"/proj"⟩).join "/proj/../proj/ui") = .ok place
        ∧ place.startsWith dir = true)
      ∧ ∃ dir place, (Disk.view ⟨[], []⟩).absolute (climbing.projectRoot ⟨"/proj"⟩) = .ok dir
        ∧ (Disk.view ⟨[], []⟩).absolute
            ((climbing.projectRoot ⟨"/proj"⟩).join "/proj/../etc") = .ok place
        ∧ place.startsWith dir = false := by
  have hvalid : climbing.validate = .ok () := by decide +kernel
  have hback : (⟨"/proj/../proj/ui"⟩ : Path) ∈ climbing.barrels := by decide
  have haway : (⟨"/proj/../etc"⟩ : Path) ∈ climbing.barrels := by decide
  refine ⟨hvalid, ?_, ?_⟩
  · obtain ⟨root, way, hroot, -, hway, hplaces⟩ :=
      startsWith_root_iff_of_validate hvalid hback (by decide)
    cases hroot
    have hdown : way = [.parent, .name "proj", .name "ui"] :=
      List.append_cancel_left (hway.symm.trans (by decide))
    obtain ⟨dir, place, hdir, hplace, hiff⟩ := hplaces (Disk.view ⟨[], []⟩) ⟨"/proj"⟩
    exact ⟨dir, place, hdir, hplace, hiff.mpr (by rw [hdown]; decide)⟩
  · obtain ⟨root, way, hroot, -, hway, hplaces⟩ :=
      startsWith_root_iff_of_validate hvalid haway (by decide)
    cases hroot
    have hdown : way = [.parent, .name "etc"] :=
      List.append_cancel_left (hway.symm.trans (by decide))
    obtain ⟨dir, place, hdir, hplace, hiff⟩ := hplaces (Disk.view ⟨[], []⟩) ⟨"/proj"⟩
    refine ⟨dir, place, hdir, hplace, Bool.eq_false_iff.mpr fun hinside => ?_⟩
    exact absurd (hdown ▸ hiff.mp hinside) (by decide)

/-- A barrel that climbs out of the root is accepted, and resolved it does not lie in it. -/
theorem validate_climbing :
    climbing.validate = .ok () ∧ (⟨"/proj/../etc"⟩ : Path) ∈ climbing.barrels
      ∧ (⟨"/proj/../etc"⟩ : Path).isAbsolute = true
      ∧ climbing.root = some ⟨"/proj"⟩
      ∧ (⟨"/proj/../etc"⟩ : Path).clean = ⟨"/etc"⟩ ∧ (⟨"/proj"⟩ : Path).clean = ⟨"/proj"⟩
      ∧ (⟨"/etc"⟩ : Path).startsWith ⟨"/proj"⟩ = false := by
  decide +kernel

end Config

end DirectImports
