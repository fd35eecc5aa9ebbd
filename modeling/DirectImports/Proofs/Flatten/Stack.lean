import DirectImports.Proofs.Cache

/-!
# The walk on a stack

A walk hands the files of its chain on from visit to visit. Here the same walk keeps them on one
stack: a visit puts its file there before it goes through the statements, and takes it off when it
is done (`Modules.visitOnStack`). The state also remembers the files that were read and parsed, and
for each visit what it began with.

Where one walk succeeds or fails so does the other, with the same result, and a visit that succeeds
leaves the stack as it found it (`follows_visitOnStack`). A visit that fails leaves its file on the
stack, but then the whole walk fails. What passes from a visit to those that it makes
(`Modules.Passes`) holds of every visit, also of a walk that fails later.
-/

namespace DirectImports

/-! ## The state -/

/-- A visit, and what the walk had when it began. -/
structure Call where
  path : Path
  segment : String
  viaWildcard : Bool
  /-- the files whose statements are being gone through, the last one first -/
  stack : List Path
  /-- the files that were read and parsed before, the last one first -/
  parsed : List Path

/-- The state of a walk on a stack. -/
structure Trace where
  walk : Walk
  stack : List Path
  parsed : List Path
  /-- the visits that were begun, the last one first -/
  calls : List Call

namespace Trace

/-- Before the first visit. -/
def empty : Trace := ⟨.empty, [], [], []⟩

/-- A visit that begins now. -/
def call (trace : Trace) (path : Path) (segment : String) (viaWildcard : Bool) : Call :=
  ⟨path, segment, viaWildcard, trace.stack, trace.parsed⟩

/-- Begins a visit. -/
def begin (trace : Trace) (path : Path) (segment : String) (viaWildcard : Bool) : Trace :=
  { trace with calls := trace.call path segment viaWildcard :: trace.calls }

/-- Remembers that a file was read and parsed. -/
def addParsed (trace : Trace) (file : Path) : Trace :=
  { trace with parsed := file :: trace.parsed }

/-- Puts a file on the stack. -/
def push (trace : Trace) (file : Path) : Trace :=
  { trace with stack := file :: trace.stack }

/-- Takes the last file off the stack. -/
def pop (trace : Trace) : Trace :=
  { trace with stack := trace.stack.tail }

/-- Changes what was collected. -/
def collect (trace : Trace) (walk : Walk) : Trace :=
  { trace with walk := walk }

end Trace

/-! ## The walk -/

namespace Place

/-- The path and the segment of the module that a statement sends the walk to. -/
def target? (place : Place) : Declaration → Option (Path × String)
  | .wildcard source =>
    if Specifier.isPath source then
      some (place.baseDir.joinDir source, Specifier.join place.baseSegment source)
    else none
  | _ => none

/-- The effect of one statement on the state; `descend` walks the module of an `export *`. -/
def stepOnStack (place : Place) (descend : Path → String → ExceptT BarrelError (StateM Trace) Unit)
    (declaration : Declaration) : ExceptT BarrelError (StateM Trace) Unit :=
  match place.target? declaration with
  | some (target, segment) => descend target segment
  | none => do
    let trace ← get
    let walk ← (place.step (fun _ _ walk => .ok walk) trace.walk declaration :
      Except BarrelError Walk)
    set (trace.collect walk)

end Place

/-- Walks the module a path leads to, and returns its file. The state holds the files whose
`export *` led here; `depth` bounds how many more may follow. -/
def Modules.visitOnStack (modules : Modules) :
    Nat → Path → String → Bool → ExceptT BarrelError (StateM Trace) Path
  | 0, path, segment, viaWildcard => do
    modify (·.begin path segment viaWildcard)
    throw (.tooDeep path)
  | depth + 1, path, segment, viaWildcard => do
    modify (·.begin path segment viaWildcard)
    let file ← (modules.locate path : Except BarrelError Path)
    let trace ← get
    if onChain trace.stack file then
      set (trace.collect (trace.walk.report .cyclicReExport file (cycleText file)))
      return file
    else
      let surface ← (modules.surface file : Except BarrelError Surface)
      modify (·.addParsed file)
      let place := Place.enter path segment viaWildcard file surface
      let descend := fun target targetSegment => do
        let _ ← modules.visitOnStack depth target targetSegment true
      modify (·.push file)
      surface.declarations.forM (place.stepOnStack descend)
      modify (·.pop)
      return file

/-! ## One part of the walk -/

/-- A part of the walk on a stack comes out as `expected`, with the stack as it was before if it
succeeds, and its visits are all of a kind. -/
structure Follows (P : Call → Prop) (before : Trace) (expected : Except BarrelError (α × Walk))
    (run : Except BarrelError α × Trace) : Prop where
  result : run.1.map (·, run.2.walk) = expected
  stack : ∀ a, run.1 = .ok a → run.2.stack = before.stack
  parsed : before.parsed ⊆ run.2.parsed
  calls : ∀ call ∈ run.2.calls, call ∈ before.calls ∨ P call

namespace Follows

variable {P : Call → Prop} {before : Trace} {α β : Type}
  {expected : Except BarrelError (α × Walk)}

/-- What only collects follows. -/
theorem collect (before : Trace) (a : α) (walk : Walk) :
    Follows P before (.ok (a, walk)) (.ok a, before.collect walk) :=
  ⟨rfl, fun _ _ => rfl, List.Subset.refl _, fun _ hcall => Or.inl hcall⟩

theorem error (before : Trace) (cause : BarrelError) :
    Follows P before (.error cause : Except BarrelError (α × Walk)) (.error cause, before) :=
  ⟨rfl, fun _ _ => rfl, List.Subset.refl _, fun _ hcall => Or.inl hcall⟩

/-- Two parts, one after the other. -/
theorem bind {x : ExceptT BarrelError (StateM Trace) α}
    {f : α → ExceptT BarrelError (StateM Trace) β}
    {g : α → Walk → Except BarrelError (β × Walk)}
    (hx : Follows P before expected (x.run.run before))
    (hf : ∀ a mid, mid.stack = before.stack → before.parsed ⊆ mid.parsed →
      Follows P mid (g a mid.walk) ((f a).run.run mid)) :
    Follows P before (expected >>= fun found => g found.1 found.2)
      ((x >>= f).run.run before) := by
  rw [run_run_bind, ← hx.result]
  cases hrun : x.run.run before with
  | mk result mid =>
    rw [hrun] at hx
    cases result with
    | error cause => exact ⟨rfl, fun _ hok => (nomatch hok), hx.parsed, hx.calls⟩
    | ok a =>
      have hmid : mid.stack = before.stack := hx.stack a rfl
      have hnext := hf a mid hmid hx.parsed
      refine ⟨hnext.result, fun b hb => (hnext.stack b hb).trans hmid,
        List.Subset.trans hx.parsed hnext.parsed, fun call hcall => ?_⟩
      rcases hnext.calls call hcall with hin | hP
      · exact hx.calls call hin
      · exact Or.inr hP

/-- The file that a visit returns does not matter to a statement. -/
theorem forget {x : ExceptT BarrelError (StateM Trace) α}
    (h : Follows P before expected (x.run.run before)) :
    Follows P before
      ((do
        let visited ← expected
        return visited.2 : Except BarrelError Walk).map ((), ·))
      ((do let _ ← x : ExceptT BarrelError (StateM Trace) Unit).run.run before) := by
  have hbind := h.bind (f := fun _ => pure ()) (g := fun _ walk => .ok ((), walk))
    fun _ mid _ _ => .collect mid () mid.walk
  cases expected with
  | error cause => exact hbind
  | ok visited => exact hbind

/-- What is done while a file is on the stack. -/
theorem pushed {file : Path} {x : ExceptT BarrelError (StateM Trace) Unit}
    {expected : Except BarrelError Walk}
    (h : Follows P (before.push file) (expected.map ((), ·)) (x.run.run (before.push file))) :
    Follows P before (expected.map (file, ·))
      ((do
        modify (·.push file)
        x
        modify (·.pop)
        return file : ExceptT BarrelError (StateM Trace) Path).run.run before) := by
  show Follows P before _ ((x >>= fun _ => do
    modify (·.pop)
    return file : ExceptT BarrelError (StateM Trace) Path).run.run (before.push file))
  rw [run_run_bind]
  cases hx : x.run.run (before.push file) with
  | mk result after =>
    rw [hx] at h
    obtain ⟨hresult, hstack, hmore, hcalls⟩ := h
    cases expected with
    | error cause =>
      cases result with
      | ok => cases hresult
      | error found =>
        cases hresult
        exact ⟨rfl, fun _ hok => (nomatch hok), hmore, hcalls⟩
    | ok walk =>
      cases result with
      | error found => cases hresult
      | ok =>
        cases hresult
        refine ⟨rfl, fun _ _ => ?_, hmore, hcalls⟩
        show after.stack.tail = before.stack
        rw [hstack () rfl]
        rfl

theorem addParsed {file : Path} {run : Except BarrelError α × Trace}
    (h : Follows P (before.addParsed file) expected run) : Follows P before expected run :=
  ⟨h.result, h.stack, List.Subset.trans (List.subset_cons_self _ _) h.parsed, h.calls⟩

/-- A visit that begins is one more of its kind. -/
theorem begin {path : Path} {segment : String} {viaWildcard : Bool}
    {run : Except BarrelError α × Trace} (hP : P (before.call path segment viaWildcard))
    (h : Follows P (before.begin path segment viaWildcard) expected run) :
    Follows P before expected run := by
  refine ⟨h.result, h.stack, h.parsed, fun call hcall => ?_⟩
  rcases h.calls call hcall with hin | hcallP
  · rcases List.mem_cons.mp hin with rfl | hbefore
    · exact Or.inr hP
    · exact Or.inl hbefore
  · exact Or.inr hcallP

end Follows

/-! ## Statements -/

namespace Place

variable {place : Place} {P : Call → Prop}
  {descend : Path → String → Walk → Except BarrelError Walk}
  {descendOnStack : Path → String → ExceptT BarrelError (StateM Trace) Unit}

theorem target?_eq_some {declaration : Declaration} {found : Path × String}
    (h : place.target? declaration = some found) :
    ∃ source, declaration = .wildcard source ∧ Specifier.isPath source = true
      ∧ found = (place.baseDir.joinDir source, Specifier.join place.baseSegment source) := by
  cases declaration with
  | wildcard source =>
    change (if Specifier.isPath source then _ else _) = _ at h
    split at h
    · next hpath =>
      cases h
      exact ⟨source, rfl, hpath, rfl⟩
    · cases h
  | star => cases h
  | named => cases h
  | declared => cases h
  | default => cases h
  | other => cases h

/-- A statement sends the walk to a module or only collects. -/
theorem step_eq_target? (walk : Walk) (declaration : Declaration) :
    place.step descend walk declaration
      = match place.target? declaration with
        | some (target, segment) => descend target segment walk
        | none => place.step (fun _ _ walk => .ok walk) walk declaration := by
  cases declaration with
  | wildcard source =>
    unfold target? step
    by_cases hpath : Specifier.isPath source = true
    · simp only [if_pos hpath]
    · simp only [if_neg hpath]
  | named source => cases source <;> rfl
  | star => rfl
  | declared => rfl
  | default => rfl
  | other => rfl

/-- One statement; only an `export *` with a path sends the walk on. -/
theorem follows_stepOnStack {before : Trace} {declaration : Declaration}
    (h : ∀ source, declaration = .wildcard source → Specifier.isPath source = true →
      Follows P before
        ((descend (place.baseDir.joinDir source) (Specifier.join place.baseSegment source)
          before.walk).map ((), ·))
        ((descendOnStack (place.baseDir.joinDir source)
          (Specifier.join place.baseSegment source)).run.run before)) :
    Follows P before ((place.step descend before.walk declaration).map ((), ·))
      ((place.stepOnStack descendOnStack declaration).run.run before) := by
  rw [step_eq_target?]
  unfold stepOnStack
  cases htarget : place.target? declaration with
  | some found =>
    obtain ⟨source, hdeclaration, hpath, rfl⟩ := target?_eq_some htarget
    exact h source hdeclaration hpath
  | none =>
    show Follows P before (Except.map _ (place.step _ before.walk declaration))
      (ExceptT.run (do
        let walk ← (place.step (fun _ _ walk => .ok walk) before.walk declaration :
          Except BarrelError Walk)
        set (before.collect walk) : ExceptT BarrelError (StateM Trace) Unit) before)
    cases place.step (fun _ _ walk => .ok walk) before.walk declaration with
    | error cause => exact .error before cause
    | ok walk => exact .collect before () walk

/-- All statements of a file. The stack is the same before each of them. -/
theorem follows_forM {declarations : List Declaration} {before : Trace}
    (h : ∀ source, .wildcard source ∈ declarations → Specifier.isPath source = true →
      ∀ mid : Trace, mid.stack = before.stack → before.parsed ⊆ mid.parsed →
        Follows P mid
          ((descend (place.baseDir.joinDir source) (Specifier.join place.baseSegment source)
            mid.walk).map ((), ·))
          ((descendOnStack (place.baseDir.joinDir source)
            (Specifier.join place.baseSegment source)).run.run mid)) :
    Follows P before ((declarations.foldlM (place.step descend) before.walk).map ((), ·))
      ((declarations.forM (place.stepOnStack descendOnStack)).run.run before) := by
  induction declarations generalizing before with
  | nil => exact .collect before () before.walk
  | cons declaration rest ih =>
    have hfirst : Follows P before ((place.step descend before.walk declaration).map ((), ·))
        ((place.stepOnStack descendOnStack declaration).run.run before) :=
      follows_stepOnStack fun source heq hpath =>
        h source (heq ▸ List.mem_cons_self) hpath before rfl (List.Subset.refl _)
    have hbind := hfirst.bind (f := fun _ => rest.forM (place.stepOnStack descendOnStack))
      (g := fun _ walk => (rest.foldlM (place.step descend) walk).map ((), ·))
      fun _ mid hstack hparsed => ih fun source hmem hpath later hlater hmore =>
        h source (List.mem_cons_of_mem _ hmem) hpath later (hlater.trans hstack)
          (List.Subset.trans hparsed hmore)
    rw [List.foldlM_cons]
    cases hstep : place.step descend before.walk declaration with
    | error cause => rw [hstep] at hbind; exact hbind
    | ok walk => rw [hstep] at hbind; exact hbind

end Place

/-! ## Visits -/

namespace Modules

variable {modules : Modules} {P : Call → Prop}

/-- What holds of a visit holds of those that it makes: its file is then on the stack, and was read
and parsed. -/
def Passes (modules : Modules) (P : Call → Prop) : Prop :=
  ∀ call file surface source parsed, P call → modules.locate call.path = .ok file →
    onChain call.stack file = false → modules.surface file = .ok surface →
    .wildcard source ∈ surface.declarations → Specifier.isPath source = true →
    file :: call.parsed ⊆ parsed →
    P ⟨file.dir.joinDir source,
      Specifier.join
        (Place.enter call.path call.segment call.viaWildcard file surface).baseSegment source,
      true, file :: call.stack, parsed⟩

/-- The walk on a stack does what the walk does that hands its chain on. -/
theorem follows_visitOnStack (hpasses : modules.Passes P) (depth : Nat) (path : Path)
    (segment : String) (viaWildcard : Bool) (before : Trace)
    (hP : P (before.call path segment viaWildcard)) :
    Follows P before (modules.visit depth before.stack path segment viaWildcard before.walk)
      ((modules.visitOnStack depth path segment viaWildcard).run.run before) := by
  induction depth generalizing path segment viaWildcard before with
  | zero => exact (Follows.error (before.begin ..) _).begin hP
  | succ depth ih =>
    refine Follows.begin hP ?_
    unfold visit visitOnStack
    cases hlocate : modules.locate path with
    | error cause => exact .error _ cause
    | ok file =>
      show Follows P _ (if onChain before.stack file then _ else _)
        ((if onChain before.stack file then _ else _ :
          ExceptT BarrelError (StateM Trace) Path).run.run (before.begin path segment viaWildcard))
      cases hon : onChain before.stack file with
      | true => exact .collect (before.begin path segment viaWildcard) file _
      | false =>
        cases hsurface : modules.surface file with
        | error cause => exact .error _ cause
        | ok surface =>
          refine Follows.addParsed (Follows.pushed (Place.follows_forM ?_))
          intro source hmem hpath mid hstack hparsed
          -- the stack of the state is the chain that the other walk hands on
          have hnext := hpasses _ file surface source mid.parsed hP hlocate hon hsurface hmem hpath
            hparsed
          change P ⟨_, _, true, file :: before.stack, mid.parsed⟩ at hnext
          rw [show file :: before.stack = mid.stack from hstack.symm] at hnext ⊢
          exact (ih _ _ true mid hnext).forget

/-- A visit that succeeds leaves the stack as it found it, whatever the stack holds. -/
theorem stack_of_visitOnStack {depth : Nat} {path file : Path} {segment : String}
    {viaWildcard : Bool} {before after : Trace}
    (h : (modules.visitOnStack depth path segment viaWildcard).run.run before = (.ok file, after)) :
    after.stack = before.stack := by
  -- nothing has to be known of the visits
  have hpasses : modules.Passes fun _ => True := fun _ _ _ _ _ _ _ _ _ _ _ _ => trivial
  have hfollows := follows_visitOnStack hpasses depth path segment viaWildcard before trivial
  rw [h] at hfollows
  exact hfollows.stack file rfl

/-- The stack of a visit is its chain, whose files were read and parsed before. -/
theorem passes_visits (modules : Modules) (start : Path) :
    modules.Passes fun call =>
      modules.Visits start call.stack call.path call.segment call.viaWildcard
        ∧ call.stack ⊆ call.parsed := by
  rintro ⟨path, segment, viaWildcard, stack, seen⟩ file surface source parsed ⟨hvisit, hseen⟩
    hlocate hoff hsurface hmem hpath hparsed
  dsimp only at *
  have hnext := Visits.next hvisit hlocate hoff hsurface hmem hpath
  exact ⟨hnext, List.Subset.trans (List.cons_subset_cons file hseen) hparsed⟩

end Modules

/-! ## Barrels -/

namespace FileSystem

variable {fs : FileSystem} {path directory : Path}

/-- Flattens the barrel in a directory, with one stack for the whole walk. -/
def flattenOnStack (fs : FileSystem) (path : Path) :
    ExceptT BarrelError (StateM Trace) Barrel := do
  let directory ← (fs.absolute path : Except BarrelError Path)
  let rootFile ← fs.modules.visitOnStack (fs.depth + 1) directory "" false
  let trace ← get
  return ⟨directory, rootFile, trace.walk.exports, trace.walk.diagnostics⟩

/-- The trace of flattening a barrel. -/
def trace (fs : FileSystem) (path : Path) : Trace :=
  ((fs.flattenOnStack path).run.run .empty).2

/-- Flattening on a stack is the walk from the directory, whose visits have their chains on the
stack. -/
theorem run_flattenOnStack (h : fs.absolute path = .ok directory) :
    ∃ result after,
      (fs.flattenOnStack path).run.run .empty
          = (result.map fun root => ⟨directory, root, after.walk.exports, after.walk.diagnostics⟩,
              after)
        ∧ Follows (fun call =>
            fs.modules.Visits directory call.stack call.path call.segment call.viaWildcard
              ∧ call.stack ⊆ call.parsed)
          .empty (fs.modules.visit (fs.depth + 1) [] directory "" false .empty)
          (result, after) := by
  have hfollows := Modules.follows_visitOnStack (fs.modules.passes_visits directory)
    (fs.depth + 1) directory "" false .empty ⟨.first, List.Subset.refl _⟩
  cases hrun : (fs.modules.visitOnStack (fs.depth + 1) directory "" false).run.run .empty with
  | mk result after =>
    rw [hrun] at hfollows
    refine ⟨result, after, ?_, hfollows⟩
    unfold flattenOnStack
    rw [h]
    show (fs.modules.visitOnStack (fs.depth + 1) directory "" false >>= fun rootFile => do
      let trace ← get
      return ⟨directory, rootFile, trace.walk.exports, trace.walk.diagnostics⟩ :
        ExceptT BarrelError (StateM Trace) Barrel).run.run .empty = _
    rw [run_run_bind, hrun]
    cases result with
    | error cause => rfl
    | ok root => rfl

/-- One stack for the whole walk gives the barrel that the walk gives that hands its chain on. -/
theorem fst_run_flattenOnStack (fs : FileSystem) (path : Path) :
    ((fs.flattenOnStack path).run.run .empty).1 = fs.flatten path := by
  cases hdirectory : fs.absolute path with
  | error cause =>
    unfold flattenOnStack flatten
    rw [hdirectory]
    rfl
  | ok directory =>
    obtain ⟨result, after, hrun, hfollows⟩ := run_flattenOnStack hdirectory
    rw [hrun]
    unfold flatten
    rw [hdirectory]
    show _ = (fs.modules.visit (fs.depth + 1) [] directory "" false .empty >>= _)
    rw [← hfollows.result]
    cases result with
    | error cause => rfl
    | ok root => rfl

/-- Each visit of a walk has its chain on the stack, whose files were read and parsed before. -/
theorem visits_of_mem_calls {call : Call} (h : call ∈ (fs.trace path).calls) :
    ∃ directory, fs.absolute path = .ok directory
      ∧ fs.modules.Visits directory call.stack call.path call.segment call.viaWildcard
      ∧ call.stack ⊆ call.parsed := by
  cases hdirectory : fs.absolute path with
  | error cause =>
    unfold trace flattenOnStack at h
    rw [hdirectory] at h
    cases h
  | ok directory =>
    obtain ⟨result, after, hrun, hfollows⟩ := run_flattenOnStack hdirectory
    rw [trace, hrun] at h
    rcases hfollows.calls call h with hnone | hsound
    · cases hnone
    · exact ⟨directory, rfl, hsound⟩

end FileSystem

end DirectImports
