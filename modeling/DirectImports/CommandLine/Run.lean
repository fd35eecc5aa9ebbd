import DirectImports.CommandLine.Report
import DirectImports.CommandLine.Sources
import DirectImports.CommandLine.Usage
import DirectImports.Config.Discovery
import DirectImports.Config.Validation

/-!
# Running commands

A command reads a disk and answers with what it prints, whether it succeeded, and the disk as it
leaves it. Only the redirect command changes files, and only if it is asked to write.

All files are transformed before the first is written, so what is written does not depend on the
order of the files.
-/

namespace DirectImports.CommandLine

/-- What a command comes to. -/
structure Outcome where
  /-- the lines printed -/
  lines : List String
  /-- the notes, in order -/
  notes : List Note
  /-- the summary that ends the notes -/
  summary : Option Summary
  result : Except CommandError Unit

namespace Outcome

/-- A command that failed before it printed anything. -/
def failed (error : CommandError) : Outcome := ⟨[], [], none, .error error⟩

/-- All that is printed on standard output. -/
def output (outcome : Outcome) : String :=
  String.join (outcome.lines.map (· ++ "\n"))

/-- All notes, the summary with the time that has passed. -/
def allNotes (outcome : Outcome) (elapsed : String) : List String :=
  (outcome.notes ++ (outcome.summary.map (·.note elapsed)).toList).map (·.render)

end Outcome

/-! ## Configurations -/

/-- A configuration and the directory it belongs to. -/
structure Loaded where
  config : Config
  base : Path
deriving DecidableEq, Repr

/-- The configuration in a file that the user names. -/
def loadNamed (disk : Disk) (cwd : Path) (text : String) : Except CommandError Loaded := do
  let path := resolvePath cwd ⟨text⟩
  if !disk.isFile path then throw (.fileNotFound path)
  let config ← (Config.loadFrom disk path).mapError fun cause =>
    (CommandError.config cause).withPath path
  return ⟨config, path.parent?.getD cwd⟩

/-- The configuration to work with. -/
def loadConfig (disk : Disk) (cwd : Path) (explicit : Option String) (required : Bool) :
    Except CommandError Loaded :=
  match explicit with
  | some text => loadNamed disk cwd text
  | none => do
    let config ←
      (if required then Config.load disk cwd else Config.loadOrDefault disk cwd).mapError .config
    return ⟨config, cwd⟩

/-- The configuration changed by what the user asks for. -/
def adjust (args : RedirectArgs) (cwd : Path) (loaded : Loaded) : Loaded :=
  let config := loaded.config
  let config :=
    if args.barrels.isEmpty then config
    else { config with barrels := args.barrels.map Path.mk, root := some cwd }
  let config := if args.absolute then { config with style := .absolute } else config
  { loaded with config := config }

/-- The barrels of a configuration. -/
def Loaded.barrelDirs (loaded : Loaded) : List Path :=
  loaded.config.barrelDirs loaded.base

/-- The redirector of a configuration. -/
def Loaded.redirector (loaded : Loaded) (fs : FileSystem) : Redirector :=
  Redirector.make fs loaded.barrelDirs loaded.config.style

/-! ## The redirect command -/

/-- A file and what its transformation came to. -/
structure Transformation where
  path : Path
  result : Except TransformError Transformed

/-- Transforms files one after the other, with the barrels flattened so far at hand. -/
def transformAll (redirector : Redirector) (fs : FileSystem) :
    List Path → BarrelCache → List Transformation
  | [], _ => []
  | path :: rest, cache =>
    let (result, cache) := (redirector.transformFile fs path).run.run cache
    ⟨path, result⟩ :: transformAll redirector fs rest cache

/-- How far a run has come. -/
structure Progress where
  lines : List String
  notes : List Note
  summary : Summary
  disk : Disk

/-- Counts a transformed file. -/
def Summary.count (summary : Summary) (transformed : Transformed) : Summary :=
  let summary := { summary with
    diagnostics := summary.diagnostics + transformed.diagnostics.length }
  if transformed.modified then
    { summary with
      changed := summary.changed + 1, imports := summary.imports + transformed.replaced }
  else summary

/-- Deals with a file whose text changes: writes it, warns about it, or prints it. -/
def emit (args : RedirectArgs) (shown path : Path) (code : String) (progress : Progress) :
    Except (CommandError × Progress) Progress :=
  if args.write then
    match Store.write progress.disk path code with
    | .ok disk => .ok { progress with disk := disk }
    | .error cause => .error (.file cause, progress)
  else if args.check then
    .ok { progress with notes := progress.notes ++ [.warning ("would rewrite " ++ shown.text)] }
  else .ok { progress with lines := progress.lines ++ ["// " ++ shown.text, code] }

/-- Deals with one file. -/
def settle (args : RedirectArgs) (cwd : Path) (progress : Progress)
    (transformation : Transformation) : Except (CommandError × Progress) Progress :=
  let shown := transformation.path.shownFrom cwd
  match transformation.result with
  | .error error =>
    .ok { progress with
      notes := progress.notes ++ [.error (shown.text ++ ": " ++ error.message)]
      summary := { progress.summary with failed := progress.summary.failed + 1 } }
  | .ok transformed =>
    let progress := { progress with summary := progress.summary.count transformed }
    if transformed.modified then emit args shown transformation.path transformed.code progress
    else .ok progress

/-- Whether a finished run counts as a success. -/
def verdict (args : RedirectArgs) (summary : Summary) : Except CommandError Unit :=
  if 0 < summary.failed then .error (.transformFailed summary.failed summary.scanned)
  else if args.check && decide (0 < summary.changed) then .error (.checkFailed summary.changed)
  else .ok ()

/-- The files that the redirect command works on, and how it redirects their imports. -/
def planRedirect (disk : Disk) (cwd : Path) (args : RedirectArgs) :
    Except CommandError (Redirector × List Path) := do
  let loaded := adjust args cwd (← loadConfig disk cwd args.config false)
  (loaded.config.validateOn disk loaded.base).mapError .config
  let sources ← collectSources disk loaded.config cwd (args.paths.map Path.mk)
  return (loaded.redirector disk.view, sources)

/-- Runs the redirect command. -/
def runRedirect (disk : Disk) (cwd : Path) (args : RedirectArgs) : Outcome × Disk :=
  match planRedirect disk cwd args with
  | .error error => (.failed error, disk)
  | .ok (redirector, sources) =>
    let start : Progress := ⟨[], [], ⟨sources.length, 0, 0, 0, 0⟩, disk⟩
    match (transformAll redirector disk.view sources .empty).foldlM (settle args cwd) start with
    | .ok done =>
      (⟨done.lines, done.notes, some done.summary, verdict args done.summary⟩, done.disk)
    | .error (error, stopped) => (⟨stopped.lines, stopped.notes, none, .error error⟩, stopped.disk)

/-! ## The other commands -/

/-- Runs the exports command. -/
def runExports (disk : Disk) (cwd : Path) (dir : String) (json : Bool) : Outcome :=
  match (disk.view.flattenOnce (resolvePath cwd ⟨dir⟩)).run.run .empty with
  | (.error error, _) => .failed (.barrel error)
  | (.ok barrel, _) =>
    if json then ⟨[(barrelValue barrel).pretty], [], none, .ok ()⟩
    else
      ⟨exportTable barrel, barrel.diagnostics.map fun diagnostic => .warning diagnostic.render,
        none, .ok ()⟩

/-- Checks barrels one after the other; `notes` and `diagnostics` are of those before, and the cache
is the one that these left. -/
def checkBarrels (fs : FileSystem) (cwd : Path) (notes : List Note) (diagnostics : Nat) :
    List Path → BarrelCache → Outcome
  | [], _ =>
    let last :=
      if 0 < diagnostics then
        Note.warning (toString diagnostics ++ " diagnostics while resolving barrels")
      else .info "configuration is valid"
    ⟨[], notes ++ [last], none, .ok ()⟩
  | dir :: rest, cache =>
    match (fs.flattenOnce dir).run.run cache with
    | (.error error, _) => ⟨[], notes, none, .error (.barrel error)⟩
    | (.ok barrel, cache) =>
      let text :=
        (dir.shownFrom cwd).text ++ ": " ++ toString barrel.exports.length ++ " exports"
      checkBarrels fs cwd (notes ++ [.success text])
        (diagnostics + barrel.diagnostics.length) rest cache

/-- Runs the check command. -/
def runCheck (disk : Disk) (cwd : Path) (config : Option String) : Outcome :=
  let plan := do
    let loaded ← loadConfig disk cwd config true
    (loaded.config.validateOn disk loaded.base).mapError CommandError.config
    return loaded.redirector disk.view
  match plan with
  | .error error => .failed error
  | .ok redirector => checkBarrels disk.view cwd [] 0 redirector.barrels .empty

/-- Runs a command in the working directory of a disk. -/
def Command.run (command : Command) (disk : Disk) : Outcome × Disk :=
  let cwd := disk.cwd.toPath
  match command with
  | .redirect args => runRedirect disk cwd args
  | .exports dir json => (runExports disk cwd dir json, disk)
  | .check config => (runCheck disk cwd config, disk)

/-- What `--version` prints. -/
def versionText : String := "unbarrel 0.2.0"

end DirectImports.CommandLine
