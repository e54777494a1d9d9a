/-!
# Command-line arguments

What the words behind the program's name ask for. An option stands before or behind the directory; two
hyphens end the options. Of several faults in a line the first that is met while reading is reported,
and what is missing or does not go together only once the line has been read.
-/

namespace HandlerMigration.Command

/-- What is done with handlers that change. -/
inductive Mode where
  | write
  | check
  | diff
deriving DecidableEq, Repr

/-- What a line asks for. -/
inductive Request where
  | run (directory : String) (config : Option String) (mode : Mode)
  | list (directory : String) (config : Option String)
  | version
  | help
deriving DecidableEq, Repr

/-- The options of a line. -/
inductive OptionName where
  | config
  | check
  | diff
  | debug
  | help
  | version
deriving DecidableEq, Repr

namespace OptionName

/-- An option as messages name it. -/
def label : OptionName → String
  | config => "--config <PATH>"
  | check => "--check"
  | diff => "--diff"
  | debug => "--debug"
  | help => "--help"
  | version => "--version"

end OptionName

/-- Why a line cannot be understood. -/
inductive UsageError where
  /-- There is nothing on the line. -/
  | nothingAsked
  | missingCommand
  | unknownCommand (word : String)
  | unexpectedWord (word : String)
  | missingValue (label : String)
  | unexpectedValue (value : String) (option : OptionName)
  | repeated (option : OptionName)
  | conflict (first second : OptionName)
  | missingDirectory
deriving DecidableEq, Repr

/-- What the program is for, and how it is called. -/
def helpText : String :=
  "Move edge function handlers onto the shared CORS and auth helpers

Usage: edgefix [OPTIONS] <COMMAND>

Commands:
  run   Rewrite every handler in a functions directory
  list  Show which policy each function resolves to
  help  Print this message or the help of the given subcommand(s)

Options:
  -d, --debug    Enable debug logging
  -h, --help     Print help
  -V, --version  Print version
"

def versionText : String := "edgefix 0.1.0\n"

def UsageError.message : UsageError → String
  | nothingAsked => helpText
  | missingCommand => "error: 'edgefix' requires a subcommand but one was not provided\n"
  | unknownCommand word => s!"error: unrecognized subcommand '{word}'\n"
  | unexpectedWord word => s!"error: unexpected argument '{word}' found\n"
  | missingValue label => s!"error: a value is required for '{label}' but none was supplied\n"
  | unexpectedValue value option =>
    s!"error: unexpected value '{value}' for '{option.label}' found; no more were expected\n"
  | repeated option => s!"error: the argument '{option.label}' cannot be used multiple times\n"
  | conflict first second =>
    s!"error: the argument '{first.label}' cannot be used with '{second.label}'\n"
  | missingDirectory =>
    "error: the following required arguments were not provided:\n  <FUNCTIONS_DIR>\n"

/-! ### Words -/

/-- A word of the line. -/
inductive Word where
  /-- Two hyphens. -/
  | endOfOptions
  | long (name : String) (value : Option String)
  | short (letters : List Char)
  | plain (text : String)
deriving DecidableEq, Repr

/-- The name of a long option, and its value behind an equals sign. -/
def longWord (t : List Char) : Word :=
  let value := (t.dropWhile fun c => c != '=').tail?.map String.ofList
  .long (String.ofList (t.takeWhile fun c => c != '=')) value

def Word.ofString (s : String) : Word :=
  match s.toList with
  | ['-', '-'] => .endOfOptions
  | '-' :: '-' :: name => longWord name
  | '-' :: c :: letters => .short (c :: letters)
  | _ => .plain s

/-! ### The words of one command -/

/-- What has been read of a command. A value is looked at when the next option comes or the line ends,
so until then it is pending. -/
structure Draft where
  directory : Option String
  config : Option String
  /-- The flags that have been set, the first first. -/
  flags : List OptionName
  /-- An option or the directory whose value has not been looked at. The directory has no option. -/
  pending : Option (Option OptionName × Option String)

/-- What reading a command leads to: an error, or one of the answers that end it at once. -/
abbrev Reading := Except (UsageError ⊕ Request)

def refuse {α : Type} (e : UsageError) : Reading α := .error (.inl e)

def demand {α : Type} (r : Request) : Reading α := .error (.inr r)

def directoryLabel : String := "<FUNCTIONS_DIR>"

namespace Draft

def empty : Draft := ⟨none, none, [], none⟩

/-- Looks at the value of the configuration file. -/
def setConfig (d : Draft) (value : String) : Reading Draft :=
  if d.config.isSome then refuse (.repeated .config)
  else if value == "" then refuse (.missingValue OptionName.config.label)
  else .ok { d with config := some value }

/-- Looks at the pending value. -/
def settle (d : Draft) : Reading Draft :=
  let d' := { d with pending := none }
  match d.pending with
  | none => .ok d
  | some (none, value) =>
    match value with
    | none | some "" => refuse (.missingValue directoryLabel)
    | some value => .ok { d' with directory := some value }
  | some (some option, none) => refuse (.missingValue option.label)
  | some (some _, some value) => d'.setConfig value

/-- Sets a flag, once. -/
def setFlag (d : Draft) (option : OptionName) : Reading Draft := do
  let d ← d.settle
  if d.flags.contains option then refuse (.repeated option)
  else .ok { d with flags := d.flags ++ [option] }

/-- A word that is no option: the value of an option that waits for one, else the directory. -/
def plainWord (d : Draft) (word : String) (afterOptions : Bool) : Reading Draft :=
  match d.pending with
  | some (some option, none) =>
    if afterOptions then do
      let d ← d.settle
      .ok { d with pending := some (none, some word) }
    else .ok { d with pending := some (some option, some word) }
  | some (none, _) => refuse (.unexpectedWord word)
  | _ =>
    if d.directory.isSome then refuse (.unexpectedWord word)
    else do
      let d ← d.settle
      .ok { d with pending := some (none, some word) }

/-- The letters of a word of short options. -/
def shortWord (d : Draft) : List Char → Reading Draft
  | [] => .ok d
  | 'd' :: letters => do (← d.setFlag .debug).shortWord letters
  | 'h' :: _ => do
    let _ ← d.settle
    demand .help
  | c :: _ => refuse (.unexpectedWord (String.ofList ['-', c]))

/-- A long option; `modes` says whether the command has modes. -/
def longOption (d : Draft) (modes : Bool) (name : String) (value : Option String) :
    Reading Draft :=
  let flag (option : OptionName) : Reading Draft :=
    match value with
    | some value => refuse (.unexpectedValue value option)
    | none => d.setFlag option
  match name with
  | "config" => do
    let d ← d.settle
    match value with
    | some value => d.setConfig value
    | none => .ok { d with pending := some (some .config, none) }
  | "debug" => flag .debug
  | "help" =>
    match value with
    | some value => refuse (.unexpectedValue value .help)
    | none => do
      let _ ← d.settle
      demand .help
  | "check" => if modes then flag .check else refuse (.unexpectedWord "--check")
  | "diff" => if modes then flag .diff else refuse (.unexpectedWord "--diff")
  | name => refuse (.unexpectedWord ("--" ++ name))

/-- Reads the words of a command. -/
def read (modes : Bool) : (afterOptions : Bool) → Draft → List String → Reading Draft
  | _, d, [] => d.settle
  | true, d, word :: words => do read modes true (← d.plainWord word true) words
  | false, d, word :: words =>
    match Word.ofString word with
    | .endOfOptions => read modes true d words
    | .long name value => do read modes false (← d.longOption modes name value) words
    | .short letters => do read modes false (← d.shortWord letters) words
    | .plain word => do read modes false (← d.plainWord word false) words

/-- The directory and the mode of a command that has been read. -/
def complete (d : Draft) : Reading (String × Mode) :=
  match d.flags.filter fun option => option != .debug with
  | first :: second :: _ => refuse (.conflict first second)
  | flags =>
    match d.directory with
    | none => refuse .missingDirectory
    | some directory =>
      .ok (directory, if flags = [.check] then .check else if flags = [.diff] then .diff else .write)

end Draft

/-! ### The line -/

/-- A command by its name or its short name. -/
def isRun (word : String) : Bool := word == "run" || word == "r"

def isList (word : String) : Bool := word == "list" || word == "ls"

def isCommand (word : String) : Bool := isRun word || isList word || word == "help"

/-- The request of a command. -/
def ofCommand (word : String) (words : List String) : Reading Request := do
  if isRun word then
    let d ← Draft.read true false .empty words
    let (directory, mode) ← d.complete
    .ok (.run directory d.config mode)
  else if isList word then
    let d ← Draft.read false false .empty words
    let (directory, _) ← d.complete
    .ok (.list directory d.config)
  else
    match words with
    | [] => .ok .help
    | word :: words =>
      if !isCommand word then refuse (.unknownCommand word)
      else
        match words with
        | [] => .ok .help
        | word :: _ => refuse (.unknownCommand word)

/-- The letters of a word of short options before the command; whether debugging is asked for. -/
def leadingShort (debug : Bool) : List Char → Reading Bool
  | [] => .ok debug
  | 'd' :: letters => if debug then refuse (.repeated .debug) else leadingShort true letters
  | 'h' :: _ => demand .help
  | 'V' :: _ => demand .version
  | c :: _ => refuse (.unexpectedWord (String.ofList ['-', c]))

/-- A long option before the command. -/
def leadingLong (debug : Bool) (name : String) (value : Option String) : Reading Bool :=
  match name, value with
  | "debug", none => if debug then refuse (.repeated .debug) else .ok true
  | "debug", some value => refuse (.unexpectedValue value .debug)
  | "help", none => demand .help
  | "help", some value => refuse (.unexpectedValue value .help)
  | "version", none => demand .version
  | "version", some value => refuse (.unexpectedValue value .version)
  | name, _ => refuse (.unexpectedWord ("--" ++ name))

/-- Reads the words before the command. -/
def readLine (debug : Bool) : List String → Reading Request
  | [] => refuse (if debug then .missingCommand else .nothingAsked)
  | word :: words =>
    match Word.ofString word with
    | .endOfOptions =>
      match words with
      | [] => refuse (if debug then .missingCommand else .nothingAsked)
      | word :: _ => refuse (if isCommand word then .unexpectedWord word else .unknownCommand word)
    | .long name value => do readLine (← leadingLong debug name value) words
    | .short letters => do readLine (← leadingShort debug letters) words
    | .plain word =>
      if isCommand word then ofCommand word words else refuse (.unknownCommand word)

/-- The request of a line. -/
def Request.ofArguments (words : List String) : Except UsageError Request :=
  match readLine false words with
  | .ok request | .error (.inr request) => .ok request
  | .error (.inl e) => .error e

end HandlerMigration.Command
