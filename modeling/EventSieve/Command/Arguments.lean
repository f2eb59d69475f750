/-!
# Command lines

A command line names a command, and options before and after it. Most options may stand on both
sides; what stands after the command counts. An option comes once on each side, and its value
stands after it or behind an equals sign.

## Main definitions

* `Invocation` — what a command line asks for
* `Invocation.parse` — the meaning of the arguments
-/
namespace EventSieve.Command

/-- When to write in colors. -/
inductive ColorMode where
  | auto | always | never
deriving DecidableEq, Repr

/-- How to write results. -/
inductive OutputFormat where
  | text | json
deriving DecidableEq, Repr

/-- The options that may stand before and after the command. -/
structure CommonOptions where
  filter : Option String := none
  config : Option String := none
  color : Option ColorMode := none
  format : Option OutputFormat := none
  verbose : Nat := 0
  quiet : Bool := false
deriving DecidableEq, Repr

/-- The options of the command that filters records. -/
structure FilterOptions where
  files : List String := []
  tree : Bool := false
  saved : List String := []
  traceType : Option String := none
  count : Bool := false
deriving DecidableEq, Repr

/-- The commands. -/
inductive CommandName where
  | filter | explain | check
deriving DecidableEq, Repr

/-- The command with a name. -/
def CommandName.ofText? (name : String) : Option CommandName :=
  if name = "filter" then some filter
  else if name = "explain" then some explain
  else if name = "check" then some check
  else none

/-- What a command line asks for. -/
structure Invocation where
  command : CommandName
  common : CommonOptions
  filter : FilterOptions
deriving DecidableEq, Repr

/-- Why there is nothing to run. -/
inductive Stop where
  /-- The arguments have no meaning. -/
  | usage
  | version
  | help
deriving DecidableEq, Repr

/-- The state of reading: the command if it was read, and the options before and after it. -/
structure Progress where
  command : Option CommandName := none
  before : CommonOptions := {}
  after : CommonOptions := {}
  filter : FilterOptions := {}

/-- The options. -/
inductive OptionName where
  | filter | config | color | format | verbose | quiet
  | tree | saved | traceType | count | help | version
deriving DecidableEq, Repr

namespace OptionName

/-- The option of a long name. -/
def ofLong? (name : String) : Option OptionName :=
  [("filter", filter), ("config", config), ("color", color), ("format", format),
    ("verbose", verbose), ("quiet", quiet), ("tree", tree), ("saved", saved),
    ("trace-type", traceType), ("count", count), ("help", help), ("version", version)].lookup name

/-- The option of a letter. -/
def ofShort? (letter : Char) : Option OptionName :=
  [('f', filter), ('c', config), ('F', format), ('v', verbose), ('q', quiet), ('h', help),
    ('V', version)].lookup letter

/-- Whether a value stands after an option. -/
def takesValue : OptionName → Bool
  | filter | config | color | format | saved | traceType => true
  | _ => false

/-- Whether an option may stand where a command has been read. -/
def isKnown (command : Option CommandName) : OptionName → Bool
  | tree | saved | traceType | count => command == some .filter
  | version => command.isNone
  | _ => true

end OptionName

/-- A value that was not set before. -/
def setOnce {α : Type} (old : Option α) (value : α) : Except Stop (Option α) :=
  if old.isSome then .error .usage else .ok (some value)

/-- A mark that was not set before. -/
def markOnce (old : Bool) : Except Stop Bool :=
  if old then .error .usage else .ok true

/-- The name of a file, which is not empty. -/
def path (text : String) : Except Stop String :=
  if text.isEmpty then .error .usage else .ok text

/-- The color mode of a name. -/
def ColorMode.ofText (name : String) : Except Stop ColorMode :=
  if name = "auto" then .ok auto
  else if name = "always" then .ok always
  else if name = "never" then .ok never
  else .error .usage

/-- The output format of a name. -/
def OutputFormat.ofText (name : String) : Except Stop OutputFormat :=
  if name = "text" then .ok text else if name = "json" then .ok json else .error .usage

/-- The common options with one more. -/
def CommonOptions.set (options : CommonOptions) (name : OptionName) (value : String) :
    Except Stop CommonOptions := do
  match name with
  | .filter => return { options with filter := ← setOnce options.filter value }
  | .config => return { options with config := ← setOnce options.config (← path value) }
  | .color => return { options with color := ← setOnce options.color (← ColorMode.ofText value) }
  | .format =>
    return { options with format := ← setOnce options.format (← OutputFormat.ofText value) }
  | .verbose => return { options with verbose := options.verbose + 1 }
  | .quiet => return { options with quiet := ← markOnce options.quiet }
  | _ => return options

/-- The options of the command that filters with one more. -/
def FilterOptions.set (options : FilterOptions) (name : OptionName) (value : String) :
    Except Stop FilterOptions := do
  match name with
  | .tree => return { options with tree := ← markOnce options.tree }
  | .saved => return { options with saved := options.saved ++ [value] }
  | .traceType => return { options with traceType := ← setOnce options.traceType value }
  | .count => return { options with count := ← markOnce options.count }
  | _ => return options

namespace Progress

/-- The state after an option with its value, which is empty where it takes none. -/
def set (progress : Progress) (name : OptionName) (value : String) : Except Stop Progress := do
  if !name.isKnown progress.command then .error .usage
  else
    match name with
    | .help => .error .help
    | .version => .error .version
    | .tree | .saved | .traceType | .count =>
      return { progress with filter := ← progress.filter.set name value }
    | _ =>
      if progress.command.isSome then
        return { progress with after := ← progress.after.set name value }
      else return { progress with before := ← progress.before.set name value }

/-- The state after an argument that is no option: the command, or else a file. -/
def addWord (progress : Progress) (word : String) (escaped : Bool) : Except Stop Progress :=
  match progress.command with
  | some .filter => do
    let file ← path word
    return { progress with
      filter := { progress.filter with files := progress.filter.files ++ [file] } }
  | some _ => .error .usage
  | none =>
    if escaped then .error .usage
    else if word = "help" then .error .help
    else
      match CommandName.ofText? word with
      | some command => .ok { progress with command := some command }
      | none => .error .usage

/-- Whether an argument stands for itself: it begins with no hyphen, or is nothing else. -/
def isPlain (word : String) : Bool :=
  word == "-" || !List.isPrefixOf ['-'] word.toList

/-- Options of one letter each. The last may have its value in the rest of the argument, or
leave it to the next one, which is then named in the result. -/
def setLetters (progress : Progress) :
    List Char → Except Stop (Progress × Option OptionName)
  | [] => .ok (progress, none)
  | letter :: rest =>
    match OptionName.ofShort? letter with
    | none => .error .usage
    | some name =>
      if !name.isKnown progress.command then .error .usage
      else if name.takesValue then
        match rest with
        | [] => .ok (progress, some name)
        | '=' :: value =>
          (progress.set name (String.ofList value)).map fun progress => (progress, none)
        | value => (progress.set name (String.ofList value)).map fun progress => (progress, none)
      else do setLetters (← progress.set name "") rest

/-- An option by its long name, perhaps with a value behind an equals sign. -/
def setLong (progress : Progress) (text : List Char) :
    Except Stop (Progress × Option OptionName) :=
  let name := text.takeWhile (· != '=')
  let value := text.drop (name.length + 1)
  let hasValue := name.length < text.length
  match OptionName.ofLong? (String.ofList name) with
  | none => .error .usage
  | some option =>
    if !option.isKnown progress.command then .error .usage
    else if option.takesValue then
      if hasValue then
        (progress.set option (String.ofList value)).map fun progress => (progress, none)
      else .ok (progress, some option)
    else if hasValue then .error .usage
    else (progress.set option "").map fun progress => (progress, none)

/-- Reads the arguments. `pending` is an option that waits for its value. -/
def read (progress : Progress) (pending : Option OptionName) :
    List String → Except Stop Progress
  | [] => if pending.isSome then .error .usage else .ok progress
  | word :: rest =>
    match pending with
    | some name =>
      if isPlain word then do read (← progress.set name word) none rest else .error .usage
    | none =>
      match word.toList with
      | ['-', '-'] => rest.foldlM (fun progress word => progress.addWord word true) progress
      | '-' :: '-' :: text => do
        let (progress, pending) ← progress.setLong text
        read progress pending rest
      | '-' :: letter :: text => do
        let (progress, pending) ← progress.setLetters (letter :: text)
        read progress pending rest
      | _ => do read (← progress.addWord word false) none rest

end Progress

/-- The options that count: those after the command, or else those before it. -/
def CommonOptions.merge (before after : CommonOptions) : CommonOptions where
  filter := after.filter <|> before.filter
  config := after.config <|> before.config
  color := after.color <|> before.color
  format := after.format <|> before.format
  verbose := if after.verbose = 0 then before.verbose else after.verbose
  quiet := after.quiet || before.quiet

/-- The configuration that the environment names counts where no option does; each side of the
command is asked for itself. -/
def environmentConfig (progress : Progress) (setting : Option String) :
    Except Stop (Option String) :=
  match setting with
  | none => .ok none
  | some name =>
    if progress.before.config.isSome && progress.after.config.isSome then .ok none
    else (path name).map some

/-- The meaning of the arguments; `setting` is the configuration that the environment names. -/
def Invocation.parse (arguments : List String) (setting : Option String) :
    Except Stop Invocation := do
  let progress ← Progress.read {} none arguments
  let fallback ← environmentConfig progress setting
  let common := progress.before.merge progress.after
  let common := { common with config := common.config <|> fallback }
  match progress.command with
  | none => .error .usage
  | some command =>
    if command = .filter ∧ progress.filter.files.isEmpty then .error .usage
    else return ⟨command, common, progress.filter⟩

end EventSieve.Command
