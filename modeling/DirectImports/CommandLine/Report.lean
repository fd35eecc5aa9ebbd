import DirectImports.Barrel.Flatten
import DirectImports.Decimal.Binary64
import DirectImports.Json.Writer

/-!
# What commands print

Notes for the user, the summary of a run, and the two forms in which the exports of a barrel are
printed.
-/

namespace DirectImports.CommandLine

/-! ## Durations -/

/-- A duration given in microseconds: milliseconds below a second, seconds with two places below
a minute, and minutes with seconds from then on. -/
def formatDuration (micros : Nat) : String :=
  let millis := micros / 1000
  let seconds := micros / 1000000
  if millis < 1000 then toString millis ++ "ms"
  else if millis < 60000 then
    let sum := do
      let whole ← Decimal.Binary64.ofRatio false seconds 1
      let fraction ← Decimal.Binary64.ofRatio false (micros % 1000000 * 1000) 1000000000
      whole.addMagnitudes fraction
    match sum with
    | some value => value.fixed 2 ++ "s"
    | none => ""
  else toString (seconds / 60) ++ "m " ++ toString (seconds % 60) ++ "s"

/-! ## Notes -/

/-- A note for the user. -/
inductive Note
  | success (text : String)
  | info (text : String)
  | warning (text : String)
  | error (text : String)
deriving DecidableEq, Repr

/-- A note with its mark. -/
def Note.render : Note → String
  | .success text => "✓ " ++ text
  | .info text => "ℹ " ++ text
  | .warning text => "⚠ " ++ text
  | .error text => "✗ " ++ text

/-! ## Summaries -/

/-- What a run of the redirect command did. -/
structure Summary where
  /-- the files looked at -/
  scanned : Nat
  /-- the files whose text changes -/
  changed : Nat
  /-- the imports replaced -/
  imports : Nat
  diagnostics : Nat
  /-- the files that could not be transformed -/
  failed : Nat
deriving DecidableEq, Repr

namespace Summary

/-- The summary in one line. -/
def describe (summary : Summary) (elapsed : String) : String :=
  toString summary.changed ++ " of " ++ toString summary.scanned ++ " files changed, "
    ++ toString summary.imports ++ " imports rewritten in " ++ elapsed
    ++ (if summary.diagnostics > 0 then
        " (" ++ toString summary.diagnostics ++ " diagnostics)" else "")
    ++ (if summary.failed > 0 then ", " ++ toString summary.failed ++ " failed" else "")

/-- The summary as a note. -/
def note (summary : Summary) (elapsed : String) : Note :=
  if summary.failed > 0 then .warning (summary.describe elapsed)
  else .success (summary.describe elapsed)

end Summary

/-! ## Exports -/

/-- A text filled with blanks up to a number of characters. -/
def padRight (width : Nat) (text : String) : String :=
  text ++ String.ofList (List.replicate (width - text.length) ' ')

/-- Where a name is defined, as the table shows it. -/
def originText (record : ExportRecord) : String :=
  let segment := if record.segment = "" then "." else record.segment
  match record.sourceName with
  | some name => segment ++ " (" ++ name ++ ")"
  | none => segment

/-- The exports of a barrel as a table. The first column is as wide as the longest name has
bytes. -/
def exportTable (barrel : Barrel) : List String :=
  let width := (barrel.exports.map fun entry => entry.1.utf8ByteSize).foldl max 0
  barrel.rootFile.text :: barrel.exports.map fun (name, record) =>
    "  " ++ padRight width name ++ "  " ++ originText record

/-- A diagnostic as a value. -/
def diagnosticValue (diagnostic : Diagnostic) : Json.Value :=
  .object [("kind", .string diagnostic.kind.name), ("message", .string diagnostic.message),
    ("path", .string diagnostic.path.text)]

/-- A record as a value. -/
def recordValue (record : ExportRecord) : Json.Value :=
  .object [("definingPathSegment", .string record.segment),
    ("originalName", match record.sourceName with
      | some name => .string name
      | none => .null)]

/-- A barrel as a value. -/
def barrelValue (barrel : Barrel) : Json.Value :=
  .object [("directory", .string barrel.directory.text),
    ("rootFile", .string barrel.rootFile.text),
    ("exports", .object (barrel.exports.map fun (name, record) => (name, recordValue record))),
    ("diagnostics", .array (barrel.diagnostics.map diagnosticValue))]

end DirectImports.CommandLine
