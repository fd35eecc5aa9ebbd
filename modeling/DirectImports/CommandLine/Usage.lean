/-!
# Command line arguments

`CommandLine.parse` reads the arguments of a run: flags that hold for every command, a command,
and the command's own options and operands. Short options may be joined, a value may stand behind
its option or be attached to it, and after `--` everything is an operand.

A value that has been given is checked only when the next option, operand or the end is reached,
so of two faults the one that is looked at first is reported (`Reading.flush`). Flags before and
after the command are read apart from each other, and so are their conflicts.
-/

namespace DirectImports.CommandLine

/-! ## What can be asked for -/

/-- The redirect command: replace imports of barrels. -/
structure RedirectArgs where
  /-- files and directories to transform -/
  paths : List String
  /-- write the files in place -/
  write : Bool
  /-- fail if a file would change -/
  check : Bool
  /-- barrels to use in place of those configured -/
  barrels : List String
  /-- write absolute specifiers -/
  absolute : Bool
  /-- the configuration file -/
  config : Option String
deriving DecidableEq, Repr

/-- A command. -/
inductive Command
  | redirect (args : RedirectArgs)
  /-- show what a barrel exports -/
  | exports (dir : String) (json : Bool)
  /-- check the configuration and its barrels -/
  | check (config : Option String)
deriving DecidableEq, Repr

/-- The arguments of a run. -/
structure Arguments where
  verbose : Bool
  quiet : Bool
  noColor : Bool
  command : Command
deriving DecidableEq, Repr

/-- Why there is nothing to run. -/
inductive UsageError
  /-- no arguments at all -/
  | helpOnMissing
  | displayHelp
  | displayVersion
  /-- two options exclude each other, or one is given twice -/
  | argumentConflict
  | missingRequired
  | missingSubcommand
  | unknownArgument
  | invalidSubcommand
  /-- a value is missing or empty -/
  | invalidValue
  /-- a flag has a value -/
  | tooManyValues
deriving DecidableEq, Repr

/-- The name of a usage error. -/
def UsageError.name : UsageError → String
  | .helpOnMissing => "DisplayHelpOnMissingArgumentOrSubcommand"
  | .displayHelp => "DisplayHelp"
  | .displayVersion => "DisplayVersion"
  | .argumentConflict => "ArgumentConflict"
  | .missingRequired => "MissingRequiredArgument"
  | .missingSubcommand => "MissingSubcommand"
  | .unknownArgument => "UnknownArgument"
  | .invalidSubcommand => "InvalidSubcommand"
  | .invalidValue => "InvalidValue"
  | .tooManyValues => "TooManyValues"

/-- The exit code of a run that ends with a usage error. -/
def UsageError.exitCode : UsageError → Nat
  | .displayHelp => 0
  | .displayVersion => 0
  | _ => 2

/-! ## Options -/

/-- An option. -/
inductive Opt
  | verbose | quiet | noColor | help | version | write | check | barrel | absolute | config | json
deriving DecidableEq, Repr

namespace Opt

/-- The long spelling. -/
def long : Opt → String
  | .verbose => "verbose"
  | .quiet => "quiet"
  | .noColor => "no-color"
  | .help => "help"
  | .version => "version"
  | .write => "write"
  | .check => "check"
  | .barrel => "barrel"
  | .absolute => "absolute"
  | .config => "config"
  | .json => "json"

/-- The short spelling. -/
def short? : Opt → Option Char
  | .verbose => some 'v'
  | .quiet => some 'q'
  | .help => some 'h'
  | .version => some 'V'
  | .write => some 'w'
  | .barrel => some 'b'
  | .config => some 'c'
  | _ => none

/-- A value follows the option. -/
def takesValue : Opt → Bool
  | .barrel => true
  | .config => true
  | _ => false

end Opt

/-- Where arguments are read. -/
inductive Level
  | top
  | redirect
  | exports
  | check
deriving DecidableEq, Repr

namespace Level

/-- The options that a level knows. -/
def options : Level → List Opt
  | .top => [.verbose, .quiet, .noColor, .help, .version]
  | .redirect =>
    [.write, .check, .barrel, .absolute, .config, .verbose, .quiet, .noColor, .help]
  | .exports => [.json, .verbose, .quiet, .noColor, .help]
  | .check => [.config, .verbose, .quiet, .noColor, .help]

/-- How many operands a level takes; `none` for any number. -/
def operandLimit : Level → Option Nat
  | .top => some 0
  | .redirect => none
  | .exports => some 1
  | .check => some 0

/-- The level of a command. -/
def ofName? (name : String) : Option Level :=
  if name = "rewrite" then some .redirect
  else if name = "exports" then some .exports
  else if name = "check" then some .check
  else none

end Level

/-- The name of the command that asks for help. -/
def helpName : String := "help"

/-! ## Reading -/

/-- What has been given and not yet checked. -/
inductive Pending
  | none
  /-- an option and its value, if that has come -/
  | option (option : Opt) (value : Option String)
  | operands (texts : List String)
deriving DecidableEq, Repr

/-- What has been read at a level. -/
structure Reading where
  flags : List Opt
  barrels : List String
  config : Option String
  operands : List String
  pending : Pending
deriving DecidableEq, Repr

namespace Reading

/-- Nothing yet. -/
def empty : Reading := ⟨[], [], none, [], .none⟩

/-- Takes the value of an option. -/
def takeValue (reading : Reading) (option : Opt) (value : String) : Except UsageError Reading :=
  if option = .config then
    if reading.config.isSome then .error .argumentConflict
    else if value = "" then .error .invalidValue
    else .ok { reading with config := some value }
  else if value = "" then .error .invalidValue
  else .ok { reading with barrels := reading.barrels ++ [value] }

/-- Checks what has been given and not yet been checked. -/
def flush (reading : Reading) : Except UsageError Reading :=
  let settled := { reading with pending := .none }
  match reading.pending with
  | .none => .ok settled
  | .option _ none => .error .invalidValue
  | .option option (some value) => settled.takeValue option value
  | .operands texts =>
    if texts.contains "" then .error .invalidValue
    else .ok { settled with operands := settled.operands ++ texts }

/-- Takes a flag. -/
def takeFlag (reading : Reading) (option : Opt) : Except UsageError Reading := do
  let reading ← reading.flush
  if option = .help then throw .displayHelp
  else if option = .version then throw .displayVersion
  else if reading.flags.contains option then throw .argumentConflict
  else return { reading with flags := reading.flags ++ [option] }

/-- Takes an option with a value, which may still have to come. -/
def takeOption (reading : Reading) (option : Opt) (value : Option String) :
    Except UsageError Reading := do
  let reading ← reading.flush
  match value with
  | some value => reading.takeValue option value
  | none => return { reading with pending := .option option none }

/-- The number of operands so far. -/
def operandCount (reading : Reading) : Nat :=
  reading.operands.length + match reading.pending with
    | .operands texts => texts.length
    | _ => 0

/-- Takes an operand. -/
def takeOperand (reading : Reading) (level : Level) (text : String) :
    Except UsageError Reading :=
  if level.operandLimit.any (· ≤ reading.operandCount) then .error .unknownArgument
  else
    match reading.pending with
    | .operands texts => .ok { reading with pending := .operands (texts ++ [text]) }
    | _ => do
      let reading ← reading.flush
      return { reading with pending := .operands [text] }

/-- Takes an argument `--name` or `--name=value`, from after the dashes. -/
def takeLong (reading : Reading) (level : Level) (text : List Char) :
    Except UsageError Reading :=
  let name := text.takeWhile (· != '=')
  let value := match text.drop name.length with
    | _ :: value => some (String.ofList value)
    | [] => none
  match level.options.find? fun option => decide (option.long.toList = name) with
  | none => .error .unknownArgument
  | some option =>
    if option.takesValue then reading.takeOption option value
    else if value.isSome then .error .tooManyValues
    else reading.takeFlag option

/-- Takes an argument `-abc`, from after the dash. -/
def takeShort (level : Level) : Reading → List Char → Except UsageError Reading
  | reading, [] => .ok reading
  | reading, c :: rest =>
    match level.options.find? fun option => decide (option.short? = some c) with
    | none => .error .unknownArgument
    | some option =>
      if option.takesValue then
        match rest with
        | [] => reading.takeOption option none
        | '=' :: value => reading.takeOption option (some (String.ofList value))
        | value => reading.takeOption option (some (String.ofList value))
      else do
        let reading ← reading.takeFlag option
        takeShort level reading rest

/-- Takes an argument that is neither an option nor `--`. -/
def takePlain (reading : Reading) (level : Level) (text : String) : Except UsageError Reading :=
  match reading.pending with
  | .option option none => .ok { reading with pending := .option option (some text) }
  | _ => reading.takeOperand level text

/-- Takes an argument before `--`. -/
def takeArgument (reading : Reading) (level : Level) (text : String) :
    Except UsageError Reading :=
  match text.toList with
  | '-' :: '-' :: rest => reading.takeLong level rest
  | '-' :: c :: rest => takeShort level reading (c :: rest)
  | _ => reading.takePlain level text

/-- Options that exclude each other. -/
def hasConflict (reading : Reading) : Bool :=
  (reading.flags.contains .write && reading.flags.contains .check)
    || (reading.flags.contains .verbose && reading.flags.contains .quiet)

end Reading

/-- Reads the arguments of a command. -/
def readCommand (level : Level) : Bool → Reading → List String → Except UsageError Reading
  | _, reading, [] => reading.flush
  | onlyOperands, reading, text :: rest => do
    if onlyOperands then readCommand level true (← reading.takeOperand level text) rest
    else if text = "--" then readCommand level true reading rest
    else readCommand level false (← reading.takeArgument level text) rest

/-! ## Commands -/

/-- The command that has been read. -/
def Level.command (level : Level) (reading : Reading) : Except UsageError Command :=
  match level with
  | .top => .error .missingSubcommand
  | .redirect => .ok (.redirect
      { paths := if reading.operands.isEmpty then ["."] else reading.operands
        write := reading.flags.contains .write
        check := reading.flags.contains .check
        barrels := reading.barrels
        absolute := reading.flags.contains .absolute
        config := reading.config })
  | .exports =>
    match reading.operands with
    | dir :: _ => .ok (.exports dir (reading.flags.contains .json))
    | [] => .error .missingRequired
  | .check => .ok (.check reading.config)

/-- Reads a command after the flags before it. -/
def finish (before : Reading) (level : Level) (rest : List String) :
    Except UsageError Arguments := do
  let reading ← readCommand level false .empty rest
  if reading.hasConflict then throw .argumentConflict
  let command ← level.command reading
  if before.hasConflict then throw .argumentConflict
  let given := fun option => before.flags.contains option || reading.flags.contains option
  return ⟨given .verbose, given .quiet, given .noColor, command⟩

/-- The names after the help command must name a command. -/
def readHelp : List String → UsageError
  | [] => .displayHelp
  | [name] => if name = helpName ∨ (Level.ofName? name).isSome then .displayHelp else .invalidSubcommand
  | _ => .invalidSubcommand

/-- Reads arguments up to the command. -/
def readTop : Bool → Reading → List String → Except UsageError Arguments
  | _, reading, [] =>
    if reading.flags.isEmpty then .error .helpOnMissing else .error .missingSubcommand
  | onlyOperands, reading, text :: rest => do
    if onlyOperands then
      if text = helpName ∨ (Level.ofName? text).isSome then throw .unknownArgument
      else throw .invalidSubcommand
    else if text = helpName then throw (readHelp rest)
    else
      match Level.ofName? text with
      | some level => finish reading level rest
      | none =>
        if text = "--" then readTop true reading rest
        else
          match text.toList with
          | '-' :: _ :: _ => readTop false (← reading.takeArgument .top text) rest
          | _ => throw .invalidSubcommand

/-- Reads the arguments of a run. -/
def parse (arguments : List String) : Except UsageError Arguments :=
  readTop false .empty arguments

end DirectImports.CommandLine
