import EventSieve.Command.Arguments
import EventSieve.Config.Decode
import EventSieve.RecordFile
import EventSieve.Report.Explain
import EventSieve.Tree.Assemble

/-!
# Running commands

What a command writes and how it ends, given the files that it may read.

## Main definitions

* `Outcome` — what a command writes, and its exit code
* `run` — the outcome of a command line
-/
namespace EventSieve.Command

/-- What a command writes, and its exit code. -/
structure Outcome where
  exitCode : Nat := 0
  output : String := ""
  /-- Notes for the user. -/
  notes : String := ""
  /-- Warnings for the log. -/
  warnings : List String := []
deriving DecidableEq, Repr

/-- The files that a command may read. -/
abbrev Files := String → Except FileError ByteArray

/-- Why a command fails: an error and its causes, the nearest first. -/
structure Failure where
  message : String
  causes : List String := []
deriving DecidableEq, Repr

/-- A run that writes notes and warnings and may fail. -/
abbrev Run := ExceptT Failure (StateM Outcome)

namespace Failure

/-- A text whose lines after the first begin with blanks. -/
def indentRest (count : Nat) (text : String) : String :=
  ("\n" ++ String.ofList (List.replicate count ' ')).intercalate
    ((text.toList.splitOn '\n').map String.ofList)

/-- The lines of causes, numbered if there are several. -/
def causeText (causes : List String) : String :=
  match causes with
  | [] => ""
  | [cause] => "\n\nCaused by:\n    " ++ indentRest 4 cause
  | causes =>
    "\n\nCaused by:" ++ String.join (causes.mapIdx fun place cause =>
      "\n    " ++ Number.intText place ++ ": " ++ indentRest 7 cause)

/-- The text of a failure with its causes. -/
def text (failure : Failure) : String :=
  "Error: " ++ failure.message ++ causeText failure.causes

end Failure

namespace Run

/-- Writes a line. -/
def line (text : String) : Run Unit :=
  modify fun outcome => { outcome with output := outcome.output ++ text ++ "\n" }

/-- Writes a note for the user. -/
def note (text : String) : Run Unit :=
  modify fun outcome => { outcome with notes := outcome.notes ++ text ++ "\n" }

/-- Logs a warning, unless only errors are wanted. -/
def warn (options : CommonOptions) (text : String) : Run Unit :=
  modify fun outcome =>
    if options.quiet then outcome else { outcome with warnings := outcome.warnings ++ [text] }

end Run

/-- Whether to write in colors, which without any setting depends on `terminal`. -/
def CommonOptions.colors (options : CommonOptions) (terminal : Bool) : Bool :=
  match options.color with
  | some .always => true
  | some .never => false
  | _ => terminal

/-- The format of results. -/
def CommonOptions.isJson (options : CommonOptions) : Bool :=
  options.format == some .json

/-- The failure to read a configuration. -/
def configFailure (path : String) (fault : FileError) : String :=
  "Failed to read config file '" ++ path ++ "': " ++ fault.message

/-- Why a configuration cannot be loaded. -/
inductive ConfigError where
  | unreadable (path : String) (fault : FileError)
  | malformed (path : String)
deriving DecidableEq, Repr

/-- The configuration of a file, or the default one. -/
def loadConfig (files : Files) (path : Option String) : Except ConfigError Config :=
  match path with
  | none => .ok {}
  | some path =>
    match files path >>= textOfBytes with
    | .error fault => .error (.unreadable path fault)
    | .ok text =>
      match Config.parse? text with
      | some config => .ok config
      | none => .error (.malformed path)

/-- An error of a configuration as a failure. -/
def ConfigError.failure : ConfigError → Failure
  | unreadable path fault =>
    ⟨"Failed to load config", [configFailure path fault, fault.message]⟩
  | malformed path =>
    ⟨"Failed to load config",
      ["Failed to parse config file '" ++ path ++ "': TOML parse error", "TOML parse error"]⟩

/-- The text of the filter, which the command needs. -/
def neededFilter (options : CommonOptions) : Except Failure String :=
  match options.filter with
  | some text => .ok text
  | none => .error { message := "This command needs a filter expression (--filter)" }

/-- The filter of a text, or why there is none. -/
def compileStrict (text : String) : Except Failure Filter :=
  match Filter.Phrase.parse text with
  | .error fault => .error ⟨"Invalid filter expression '" ++ text ++ "'", [fault.message]⟩
  | .ok phrase =>
    match Filter.ofPhrase? phrase with
    | some filter => .ok filter
    | none => .error { message := "Filter expression '" ++ text ++ "' does not compile" }

/-- The saved filters of some names. One without a meaning is left out. -/
def savedFilters (options : CommonOptions) (config : Config) :
    List String → Run (List (String × Filter))
  | [] => return []
  | name :: rest => do
    match config.savedFilter? name with
    | none => throw { message := "Unknown saved filter '" ++ name ++ "'" }
    | some saved =>
      match Filter.compile? saved.expression with
      | some filter => return (saved.name, filter) :: (← savedFilters options config rest)
      | none =>
        Run.warn options ("Saved filter '" ++ saved.name ++ "' does not compile; ignoring it")
        savedFilters options config rest

/-- The records of some files. Lines that hold none are left out with a warning. -/
def readAll (options : CommonOptions) (files : Files) : List String → Run (List RecordLine)
  | [] => return []
  | path :: rest => do
    match files path with
    | .error fault => throw ⟨readFailure path fault, [fault.message]⟩
    | .ok bytes =>
      let (outcomes, fault) := RecordFile.ofBytes bytes
      for fault in RecordFile.errors outcomes do
        Run.warn options ("Skipping unreadable record in '" ++ path ++ "': " ++ fault.message)
      match fault with
      | some fault => throw ⟨readFailure path fault, [fault.message]⟩
      | none => return RecordFile.records outcomes ++ (← readAll options files rest)

/-- The event of a record. -/
def RecordLine.event (config : Config) (record : RecordLine) : Event :=
  Event.ofJson config.records record.value

/-- The records that all of some filters accept. -/
def filterRecords (config : Config) (filters : List Filter) (records : List RecordLine) :
    List RecordLine :=
  let predicates := filters.map (Predicate.ofFilter config.coercion config.matching)
  records.filter fun record =>
    predicates.all (·.acceptsEvent (RecordLine.event config record))

/-- The records whose events a tree accepts. -/
def filterEvents (config : Config) (tree : FilterTree) (records : List RecordLine) :
    List RecordLine :=
  records.filter fun record => tree.accepts (RecordLine.event config record)

/-- Writes the records that were accepted, or only how many. -/
def printMatches (matched : List RecordLine) (total : Nat) (json count : Bool) : Run Unit := do
  let counts : List (String × Json) :=
    [("matched", .integer matched.length), ("total", .integer total)]
  if json then
    let records : List (String × Json) :=
      if count then [] else [("records", .array (matched.map RecordLine.value))]
    Run.line (Json.ofMembers (counts ++ records)).compact
  else if count then Run.line (Number.intText matched.length)
  else for record in matched do Run.line record.text

/-- The filter of the command line, if it has a meaning; otherwise nothing is filtered. -/
def givenFilter (options : CommonOptions) (colors : Bool) : Run (Option Filter) := do
  match options.filter with
  | none => return none
  | some text =>
    let filter := Filter.compile? text
    if filter.isNone && !options.quiet then
      Run.note (Report.Style.warning.paint colors "Warning:" ++ " filter '" ++ text ++
        "' is malformed; no filtering applied")
    return filter

/-- Filters the records of files. -/
def runFilter (invocation : Invocation) (colors : Bool) (config : Config) (files : Files) :
    Run Unit := do
  let options := invocation.common
  let wanted := invocation.filter
  let filter ← givenFilter options colors
  let saved ← savedFilters options config wanted.saved
  let records ← readAll options files wanted.files
  let matched ←
    if wanted.tree || wanted.traceType.isSome then
      let generator := Generator.ofConfig config .builtin
      match generator.eventTree filter saved wanted.traceType with
      | .ok tree => pure (filterEvents config tree records)
      | .error fault => throw { message := fault.message }
    else pure (filterRecords config (filter.toList ++ saved.map Prod.snd) records)
  printMatches matched records.length options.isJson wanted.count

/-- Explains a filter. -/
def runExplain (options : CommonOptions) (colors : Bool) (config : Config) : Run Unit := do
  let text ← neededFilter options
  let filter ← compileStrict text
  let tree := (Generator.ofConfig config .builtin).tree filter
  if options.isJson then Run.line (Report.explainJson text filter tree).pretty
  else modify fun outcome =>
    { outcome with output := outcome.output ++ Report.explainText colors filter tree }

/-- Checks a filter. -/
def runCheck (options : CommonOptions) (colors : Bool) : Run Unit := do
  let filter ← compileStrict (← neededFilter options)
  if options.isJson then
    Run.line
      (Json.ofMembers [("valid", .boolean true), ("rendered", .string filter.text)]).compact
  else if !options.quiet then
    Run.line (Report.Style.success.paint colors "OK" ++ " " ++ filter.text)

/-- Runs what a command line asks for. -/
def runInvocation (invocation : Invocation) (terminal : Bool) (files : Files) : Run Unit := do
  let options := invocation.common
  let colors := options.colors terminal
  match loadConfig files options.config with
  | .error fault => throw fault.failure
  | .ok config =>
    match invocation.command with
    | .filter => runFilter invocation colors config files
    | .explain => runExplain options colors config
    | .check => runCheck options colors

/-- The name and the version of the program. -/
def versionText : String :=
  "trace-filter 0.1.0"

/-- The usage of the program. -/
def usageText : String :=
  "Usage: trace-filter [OPTIONS] <filter|explain|check> [FILES]..."

/-- The outcome of a command line. -/
def run (arguments : List String) (setting : Option String) (terminal : Bool) (files : Files) :
    Outcome :=
  match Invocation.parse arguments setting with
  | .error .version => { output := versionText ++ "\n" }
  | .error .help => { output := usageText ++ "\n" }
  | .error .usage => { exitCode := 2, notes := usageText ++ "\n" }
  | .ok invocation =>
    match (runInvocation invocation terminal files).run.run {} with
    | (.ok (), outcome) => outcome
    | (.error failure, outcome) =>
      { outcome with exitCode := 1, notes := outcome.notes ++ failure.text ++ "\n" }

end EventSieve.Command
