import DirectImports.CommandLine.Run

/-!
# The program

Reads what a command works on into a `Disk`, runs the command on it, prints what comes of it, and
writes the files that changed.
-/

namespace DirectImports.Main

open CommandLine

/-! ## Reading the disk -/

/-- The entry at an absolute path. -/
def entryAt (path : Path) : IO.FS.DirEntry := ⟨"/", path.text⟩

/-- Where an entry stands. -/
def locationOf (entry : IO.FS.DirEntry) : Location := Location.ofText entry.path.toString

/-- What a path leads to in the end, with all links followed. -/
def realPath (path : Path) : IO Path :=
  try return ⟨(← IO.FS.realPath (entryAt path).path).toString⟩
  catch _ => return path

/-- The text of a file, if it can be read and holds one. -/
def fileText (entry : IO.FS.DirEntry) : IO (Option String) :=
  try return String.fromUTF8? (← IO.FS.readBinFile entry.path)
  catch _ => return none

/-- What stands at an entry, without what is below it. -/
def readEntry (entry : IO.FS.DirEntry) : IO (Option (Location × Node)) := do
  match (← entry.path.symlinkMetadata).type with
  | .dir => return some (locationOf entry, .directory)
  | .symlink => return some (locationOf entry, .link (← realPath ⟨entry.path.toString⟩).text)
  | .file => return some (locationOf entry, .file (← fileText entry))
  | .other => return none

/-- What stands directly in a directory, which comes first. -/
def readListing (dir : Path) : IO (Table Node) := do
  try
    let entries ← (entryAt dir).path.readDir
    let inside ← entries.toList.filterMapM readEntry
    return (locationOf (entryAt dir), .directory) :: inside
  catch _ => return []

/-- Puts what stands at an entry and everything below it in front of what was found so far. -/
partial def readBelow (found : Table Node) (entry : IO.FS.DirEntry) : IO (Table Node) := do
  try
    match ← readEntry entry with
    | some (location, .directory) =>
      (← entry.path.readDir).foldlM readBelow ((location, .directory) :: found)
    | some node => return node :: found
    | none => return found
  catch _ => return found

/-- Adds what was found, and the directories above it, unless the disk has it already. -/
def addFound (disk : Disk) (found : Table Node) : Disk :=
  let above := (found.head?.map fun entry => entry.1.ancestors).getD []
  let table := above.map (fun dir => (dir, Node.directory)) ++ found
  { disk with nodes := disk.nodes ++ table.filter fun entry => (disk.nodes.get? entry.1).isNone }

/-- Adds the directory that a path leads to and the one where it stands. -/
def readNear (disk : Disk) (path : Path) : IO Disk := do
  (path.parent?.toList ++ [path]).foldlM (fun disk dir => do
    let found ← readListing dir
    let real ← readListing (← realPath dir)
    return addFound (addFound disk found) real) disk

/-- Adds everything at a path and below it. -/
def readAll (disk : Disk) (path : Path) : IO Disk := do
  let places := [path, ← realPath path]
  places.foldlM (fun disk place =>
    return addFound disk (← readBelow [] (entryAt place)).reverse) disk

/-- Adds what is needed to flatten a barrel, wherever its re-exports lead. -/
partial def readBarrel (disk : Disk) (dir : Path) : IO Disk := do
  match disk.view.flatten dir with
  | .ok _ => return disk
  | .error error =>
    let more ← readNear disk error.path
    if more.nodes.length = disk.nodes.length then return disk else readBarrel more dir

/-- The files and directories that a command works through. -/
def operands : Command → List String
  | .redirect args => args.paths
  | .exports .. => []
  | .check _ => []

/-- The configuration file that a command names. -/
def configFile? : Command → Option String
  | .redirect args => args.config
  | .exports .. => none
  | .check config => config

/-- The barrels that a command flattens, by the configuration on the disk. -/
def barrelsOf (disk : Disk) (cwd : Path) : Command → List Path
  | .redirect args =>
    match loadConfig disk cwd args.config false with
    | .ok loaded => (adjust args cwd loaded).barrelDirs
    | .error _ => []
  | .exports dir _ => [resolvePath cwd ⟨dir⟩]
  | .check config =>
    match loadConfig disk cwd config true with
    | .ok loaded => loaded.barrelDirs
    | .error _ => []

/-- The part of the disk that a command works on: the configuration, the operands with all that is
below them, and what the barrels are made of. -/
def readDisk (command : Command) : IO Disk := do
  let cwd : Path := ⟨(← IO.currentDir).toString⟩
  let start := addFound ⟨[], Location.ofText cwd.text⟩ (← readListing cwd)
  let configured ← (configFile? command).toList.foldlM
    (fun disk text => readNear disk (resolvePath cwd ⟨text⟩)) start
  let filled ← (operands command).foldlM
    (fun disk text => readAll disk (resolvePath cwd ⟨text⟩)) configured
  (barrelsOf filled cwd command).foldlM readBarrel filled

/-! ## Writing it back -/

/-- Writes the files whose text is no longer what it was. -/
def writeChanges (before after : Disk) : IO Unit :=
  (before.nodes.zip after.nodes).forM fun ((_, old), (location, new)) =>
    match new with
    | .file (some text) =>
      if old = new then return () else IO.FS.writeFile location.toPath.text text
    | _ => return ()

/-! ## Running -/

/-- Prints an error and what to do about it. -/
def printError (error : CommandError) : IO Unit := do
  IO.eprintln ("Error: " ++ error.message)
  error.help.forM fun help => IO.eprintln ("  help: " ++ help)

/-- Runs a command; the answer is the exit code. -/
def runCommand (command : Command) : IO UInt32 := do
  let start ← IO.monoNanosNow
  let before ← readDisk command
  let (outcome, after) := command.run before
  writeChanges before after
  IO.print outcome.output
  let elapsed := formatDuration (((← IO.monoNanosNow) - start) / 1000)
  (outcome.allNotes elapsed).forM IO.eprintln
  match outcome.result with
  | .ok () => return 0
  | .error error =>
    printError error
    return 1

end DirectImports.Main

open DirectImports in
/-- The program. -/
def main (arguments : List String) : IO UInt32 := do
  match CommandLine.parse arguments with
  | .ok arguments => Main.runCommand arguments.command
  | .error .displayVersion =>
    IO.println CommandLine.versionText
    return 0
  | .error error =>
    IO.eprintln ("Usage: unbarrel <rewrite|exports|check> [OPTIONS] (" ++ error.name ++ ")")
    return error.exitCode.toUInt32
