import DirectImports.Proofs.Flatten.Failure
import DirectImports.Proofs.Flatten.Stack

/-!
# The walk ends

A walk keeps no list of the files it has been to. It ends because no chain holds a file twice, and
because all ways of writing a path to a file come to one normal form. So no chain is longer than
the number of paths that can be read, however the files export each other, and no deeper walk gives
anything else (`FileSystem.flatten_ends`).

A walk that was not cut off is not changed by more depth (`FileSystem.FlattensTo`). That none is cut
off follows from the bound on the modules that are reached.

A file at the root itself has no directory, and the paths that start from it are relative. There a
module may have many paths, so chains can be longer, or have no end
(`FileSystem.not_flatten_ends_rootChain`).
-/

namespace DirectImports

/-! ## Enough depth -/

namespace FileSystem

variable {fs : FileSystem} {path directory : Path}

/-- With as much depth as there are paths to be read, no walk is cut off. -/
theorem IsRegular.ends_flatten (hfs : fs.IsRegular) (hroot : fs.HasRootDirectory)
    (hfinite : fs.readable.Finite) (path : Path) :
    Ends ((fs.withDepth fs.readable.ncard).flatten path) := by
  have hregular : (fs.withDepth fs.readable.ncard).IsRegular :=
    ⟨hfs.isAbsolute_cwd, hfs.isStep_of_list⟩
  have hbounded : (fs.withDepth fs.readable.ncard).IsBounded :=
    hregular.isBounded hroot hfinite (Nat.le_refl _)
  exact (hbounded.flattensTo path).1

end FileSystem

/-! ## The stack -/

/-- A visit with files on its chain began at an index file. -/
theorem Modules.Visits.eq_nil_or_located {modules : Modules} {start path : Path}
    {chain : List Path} {segment : String} {viaWildcard : Bool}
    (h : modules.Visits start chain path segment viaWildcard) :
    chain = [] ∨ ∃ root, modules.locate start = .ok root := by
  induction h with
  | first => exact Or.inl rfl
  | next hvisit hlocate _ _ _ _ ih =>
    refine Or.inr ?_
    rcases ih with rfl | hroot
    · cases hvisit
      exact ⟨_, hlocate⟩
    · exact hroot

/-- What the stack holds when a visit begins: the files whose `export *` led there. They differ, and
all of them were read and parsed before. -/
structure Call.IsSound (fs : FileSystem) (directory : Path) (call : Call) : Prop where
  chain : fs.modules.Visits directory call.stack call.path call.segment call.viaWildcard
  differ : call.stack.Pairwise fun file other => ¬file.Same other
  parsed : ∀ file ∈ call.stack, file ∈ call.parsed
    ∧ ∃ text surface, fs.read file = .ok text ∧ Surface.parse? file text = some surface

namespace FileSystem

variable {fs : FileSystem} {path directory : Path} {call : Call}

theorem exists_isSound_of_mem_calls (h : call ∈ (fs.trace path).calls) :
    ∃ directory, fs.absolute path = .ok directory ∧ call.IsSound fs directory := by
  obtain ⟨directory, hdirectory, hvisit, hsub⟩ := visits_of_mem_calls h
  refine ⟨directory, hdirectory, hvisit, hvisit.pairwise, fun file hmem => ⟨hsub hmem, ?_⟩⟩
  obtain ⟨surface, hsurface⟩ := hvisit.exists_surface_of_mem hmem
  obtain ⟨text, hread, hparse⟩ := surface_eq_ok_iff.mp hsurface
  exact ⟨text, surface, hread, hparse⟩

/-- A stack holds no more files than there are paths that can be read. -/
theorem IsRegular.length_stack_le (hfs : fs.IsRegular) (hroot : fs.HasRootDirectory)
    (hfinite : fs.readable.Finite) (hdirectory : fs.absolute path = .ok directory)
    (hcall : call.IsSound fs directory) : call.stack.length ≤ fs.readable.ncard := by
  have hnormal : directory.IsNormal := isNormal_of_absolute hfs.isAbsolute_cwd hdirectory
  rcases hcall.chain.eq_nil_or_located with hnil | ⟨root, hlocate⟩
  · rw [hnil]
    exact Nat.zero_le _
  · exact hcall.chain.length_le hlocate (hfs.reachesAtMost_readable hroot hfinite hnormal hlocate)

/-- Flattening ends, whatever the files export. With a depth that is enough for the paths that can
be read it is never cut off, and more depth changes nothing. When a visit begins, the stack holds
different files that were read and parsed before, and no more of them than there are such paths. A
visit that succeeds leaves the stack as it found it. Only the bounds need a directory at the
root. -/
theorem flatten_ends (hfs : fs.IsRegular) (hfinite : fs.readable.Finite) (path : Path) :
    (fs.HasRootDirectory → ∃ result, Ends result
        ∧ ∀ depth, fs.readable.ncard ≤ depth → (fs.withDepth depth).flatten path = result)
      ∧ (∀ depth, (((fs.withDepth depth).flattenOnStack path).run.run .empty).1
            = (fs.withDepth depth).flatten path
          ∧ ∀ call ∈ ((fs.withDepth depth).trace path).calls,
              ∃ directory, fs.absolute path = .ok directory ∧ call.IsSound fs directory
                ∧ (fs.HasRootDirectory → call.stack.length ≤ fs.readable.ncard))
      ∧ ∀ depth target segment viaWildcard before file after,
          (fs.modules.visitOnStack depth target segment viaWildcard).run.run before
            = (.ok file, after) →
          after.stack = before.stack := by
  refine ⟨fun hroot => ?_, fun depth => ⟨?_, fun call hcall => ?_⟩, ?_⟩
  · have hends := hfs.ends_flatten hroot hfinite path
    exact ⟨_, hends, fun depth hdepth => flatten_withDepth_of_ends hdepth hends⟩
  · exact (fs.withDepth depth).fst_run_flattenOnStack path
  · obtain ⟨directory, hdirectory, hsound⟩ := exists_isSound_of_mem_calls hcall
    refine ⟨directory, hdirectory, ⟨hsound.chain, hsound.differ, hsound.parsed⟩, fun hroot => ?_⟩
    exact hfs.length_stack_le hroot hfinite hdirectory
      ⟨hsound.chain, hsound.differ, hsound.parsed⟩
  · intro depth target segment viaWildcard before file after hrun
    exact Modules.stack_of_visitOnStack hrun

end FileSystem

namespace Fixture

/-- Two files that export all of themselves and of each other, by several paths. -/
def tangle : Fixture :=
  ((Fixture.empty (some ⟨"/"⟩)).add ⟨"/b/index.ts"⟩ (.file
      "export * from './x'; export * from '.'; export * from '../b/./x.ts';")).add
    ⟨"/b/x.ts"⟩ (.file "export * from './x.ts'; export * from '/b'; export const A = 1;")

end Fixture

theorem FileSystem.flatten_ends_tangle :
    Fixture.tangle.view.IsRegular ∧ Fixture.tangle.view.HasRootDirectory
      ∧ Fixture.tangle.view.readable.Finite ∧ Fixture.tangle.view.readable.ncard ≤ 2
      ∧ (∃ barrel, barrel.exports = [("A", ⟨"../b/x.ts", none⟩)]
        ∧ ∀ depth, 2 ≤ depth → (Fixture.tangle.view.withDepth depth).flatten ⟨"/b"⟩ = .ok barrel)
      ∧ (∀ call ∈ ((Fixture.tangle.view.withDepth 2).trace ⟨"/b"⟩).calls,
          call.stack.Pairwise (fun file other => ¬file.Same other) ∧ call.stack.length ≤ 2)
      ∧ ∃ after, (Fixture.tangle.view.modules.visitOnStack 2 ⟨"/b/x"⟩ "./x" true).run.run
            (Trace.empty.push ⟨"/b/index.ts"⟩) = (.ok ⟨"/b/x.ts"⟩, after)
          ∧ after.stack = [⟨"/b/index.ts"⟩] := by
  have hfs : Fixture.tangle.view.IsRegular :=
    Fixture.isRegular_view (by decide +kernel) (by decide +kernel)
  have hmetadata : Fixture.tangle.view.metadata ⟨"/"⟩ = .ok ⟨true, false⟩ := by decide +kernel
  have hroot : Fixture.tangle.view.HasRootDirectory := hasRootDirectory_of_metadata hmetadata rfl
  have hfinite := Fixture.tangle.finite_readable
  have hcount : Fixture.tangle.view.readable.ncard ≤ 2 :=
    Fixture.tangle.ncard_readable_le.trans (by decide +kernel)
  obtain ⟨hends, hcalls, hstack⟩ := FileSystem.flatten_ends hfs hfinite ⟨"/b"⟩
  refine ⟨hfs, hroot, hfinite, hcount, ?_, fun call hcall => ?_, ?_⟩
  · obtain ⟨result, -, hresult⟩ := hends hroot
    have hexports : ((Fixture.tangle.view.withDepth 2).flatten ⟨"/b"⟩).map (·.exports)
        = .ok [("A", ⟨"../b/x.ts", none⟩)] := by decide +kernel
    rw [hresult 2 hcount] at hexports
    cases result with
    | error cause => cases hexports
    | ok barrel =>
      refine ⟨barrel, Except.ok.inj hexports, fun depth hdepth => ?_⟩
      exact hresult depth (hcount.trans hdepth)
  · obtain ⟨directory, -, hsound, hlength⟩ := (hcalls 2).2 call hcall
    exact ⟨hsound.differ, (hlength hroot).trans hcount⟩
  · have hfile : ((Fixture.tangle.view.modules.visitOnStack 2 ⟨"/b/x"⟩ "./x" true).run.run
        (Trace.empty.push ⟨"/b/index.ts"⟩)).1 = .ok ⟨"/b/x.ts"⟩ := by decide +kernel
    cases hrun : (Fixture.tangle.view.modules.visitOnStack 2 ⟨"/b/x"⟩ "./x" true).run.run
        (Trace.empty.push ⟨"/b/index.ts"⟩) with
    | mk result after =>
      rw [hrun] at hfile
      cases hfile
      exact ⟨after, rfl, hstack _ _ _ _ _ _ _ hrun⟩

/-! ## A file at the root -/

/-- A barrel that exports all of a file at the root itself, from which one module is reached by two
relative paths. -/
def Fixture.rootChain : Fixture :=
  ((((Fixture.empty (some ⟨"/other"⟩)).add
    ⟨"/other/x.ts"⟩ (.file "export * from '../y.ts';")).add
    ⟨"/y.ts"⟩ (.file "export * from './other/x.ts';")).add
    ⟨"/b/index.ts"⟩ (.file "export * from '/';")).add
    ⟨"/"⟩ (.file "export * from './x.ts';")

/-- Past a file at the root a chain can be longer than there are paths that can be read, and need
not end at all. -/
theorem FileSystem.not_flatten_ends_rootChain :
    (Fixture.rootChain.view.IsRegular ∧ Fixture.rootChain.view.readable.Finite
      ∧ Fixture.rootChain.view.readable.ncard ≤ 4
      ∧ [⟨"../other/x.ts"⟩, ⟨"../y.ts"⟩, ⟨"x.ts"⟩, ⟨"/"⟩, ⟨"/b/index.ts"⟩]
          ∈ (Fixture.rootChain.view.trace ⟨"/b"⟩).calls.map (·.stack)
      ∧ ¬∃ result, Ends result ∧ ∀ depth, Fixture.rootChain.view.readable.ncard ≤ depth →
          (Fixture.rootChain.view.withDepth depth).flatten ⟨"/b"⟩ = result)
      ∧ Fixture.rootLoop.view.IsRegular ∧ Fixture.rootLoop.view.readable.Finite
        ∧ ∀ depth, ¬Ends ((Fixture.rootLoop.view.withDepth depth).flatten ⟨"/b"⟩) := by
  have hfs : Fixture.rootChain.view.IsRegular :=
    Fixture.isRegular_view (by decide +kernel) (by decide +kernel)
  have hcount : Fixture.rootChain.view.readable.ncard ≤ 4 :=
    Fixture.rootChain.ncard_readable_le.trans (by decide +kernel)
  have hdeep : (Fixture.rootChain.view.withDepth 4).flatten ⟨"/b"⟩
      = .error (.tooDeep ⟨"../y.ts"⟩) := by decide +kernel
  have hloop : Fixture.rootLoop.view.IsRegular :=
    Fixture.isRegular_view (by decide +kernel) (by decide +kernel)
  refine ⟨⟨hfs, Fixture.rootChain.finite_readable, hcount, by decide +kernel, ?_⟩, hloop,
    Fixture.rootLoop.finite_readable, Fixture.not_ends_flatten_rootLoop⟩
  rintro ⟨result, hends, hresult⟩
  exact hends _ ((hresult 4 hcount).symm.trans hdeep)

end DirectImports
