import DirectImports.FileSystem.Store
import DirectImports.Transform

/-!
# Sessions

A session keeps a store, the barrels flattened so far and what is to be redirected, and takes one
step after another. Only the store and the remembered barrels change.
-/

namespace DirectImports

/-- The state of a session. -/
structure Session (σ : Type) where
  store : σ
  cache : BarrelCache
  redirector : Redirector

namespace Session

/-- One step of a session. -/
inductive Step
  /-- flatten a barrel unless it is remembered -/
  | resolve (path : Path)
  /-- flatten a barrel, whatever is remembered, and remember nothing -/
  | flatten (path : Path)
  | redirect (importer : Path) (statement : ImportStatement)
  | transform (path : Path) (source : String)
  | transformFile (path : Path)
  /-- forget all barrels -/
  | clear
  | write (path : Path) (text : String)
  | remove (path : Path)
deriving DecidableEq, Repr

/-- What a step answers. -/
inductive Answer
  | barrel (result : Except BarrelError Barrel)
  | redirection (result : Except RedirectError Redirection)
  | transformed (result : Except TransformError Transformed)
  | stored (result : Except FileError Unit)
  | cleared

/-- A session that begins. -/
def start [Store σ] (store : σ) (barrels : List Path) (style : SpecifierStyle) : Session σ :=
  ⟨store, .empty, Redirector.make (Store.view store) barrels style⟩

/-- What the session's files look like now. -/
def files [Store σ] (session : Session σ) : FileSystem :=
  Store.view session.store

/-- Runs something that may remember barrels. -/
def remembering (session : Session σ) (action : ExceptT ε (StateM BarrelCache) α)
    (answer : Except ε α → Answer) : Answer × Session σ :=
  let (result, cache) := action.run.run session.cache
  (answer result, { session with cache := cache })

/-- Takes a step. -/
def step [Store σ] (session : Session σ) : Step → Answer × Session σ
  | .resolve path => session.remembering (session.files.flattenOnce path) .barrel
  | .flatten path => (.barrel (session.files.flatten path), session)
  | .redirect importer statement =>
    session.remembering (session.redirector.redirect session.files importer statement)
      .redirection
  | .transform path source =>
    session.remembering (session.redirector.transform session.files path source) .transformed
  | .transformFile path =>
    session.remembering (session.redirector.transformFile session.files path) .transformed
  | .clear => (.cleared, { session with cache := .empty })
  | .write path text =>
    match Store.write session.store path text with
    | .ok store => (.stored (.ok ()), { session with store := store })
    | .error error => (.stored (.error error), session)
  | .remove path =>
    (.stored (.ok ()), { session with store := Store.remove session.store path })

/-- The session after some steps. -/
def run [Store σ] (session : Session σ) (steps : List Step) : Session σ :=
  steps.foldl (fun session step => (session.step step).2) session

end Session

end DirectImports
