import ScriptBundle.Config

/-!
# Arguments

The arguments of the command are switches and settings.  A setting has a
value, which is attached to it or is the argument after it; an argument that
looks like a switch or a setting is never taken for a value.  A setting that
waits for its value is settled when the next known switch or setting comes, or
at the end.

The first fault in this order is reported.  A request for help or for the
version ends the reading as well.
-/

namespace ScriptBundle

/-- What the arguments of the command ask for. -/
structure Arguments where
  config : Option Path
  /-- The entries as they were written, in order. -/
  entries : List String
  context : Option Path
  outputDirectory : Option Path
  bundleName : Option String
  extensions : Option (List String)
  clean : Bool
  stats : Bool
  verbose : Bool
deriving DecidableEq, Repr

/-- Why arguments are not carried out. -/
inductive UsageStop where
  | unknownArgument
  /-- A value is missing, or is empty where that has no meaning. -/
  | invalidValue
  /-- Something is given more than once. -/
  | argumentConflict
  /-- A switch is given a value. -/
  | tooManyValues
  | helpWanted
  | versionWanted
deriving DecidableEq, Repr

/-- Whether arguments are at fault when they are not carried out. -/
def UsageStop.isFault : UsageStop → Bool
  | .helpWanted => false
  | .versionWanted => false
  | _ => true

namespace Arguments

def empty : Arguments :=
  ⟨none, [], none, none, none, none, false, false, false⟩

/-- A setting, which has a value. -/
inductive Setting where
  | config
  | entry
  | context
  | outputDirectory
  | bundleName
  | extensions
deriving DecidableEq, Repr

/-- A switch, which has none. -/
inductive Switch where
  | clean
  | stats
  | verbose
  | help
  | version
deriving DecidableEq, Repr

/-- A setting or a switch. -/
inductive Flag where
  | setting (setting : Setting)
  | switch (switch : Switch)
deriving DecidableEq, Repr

def flagNamed? (name : String) : Option Flag :=
  match name with
  | "config" => some (.setting .config)
  | "entry" => some (.setting .entry)
  | "context" => some (.setting .context)
  | "output-path" => some (.setting .outputDirectory)
  | "output-filename" => some (.setting .bundleName)
  | "extensions" => some (.setting .extensions)
  | "clean" => some (.switch .clean)
  | "stats" => some (.switch .stats)
  | "verbose" => some (.switch .verbose)
  | "help" => some (.switch .help)
  | "version" => some (.switch .version)
  | _ => none

def flagLettered? (letter : Char) : Option Flag :=
  match letter with
  | 'c' => some (.setting .config)
  | 'e' => some (.setting .entry)
  | 'o' => some (.setting .outputDirectory)
  | 'v' => some (.switch .verbose)
  | 'h' => some (.switch .help)
  | 'V' => some (.switch .version)
  | _ => none

def setOnce {Value : Type} (current : Option Value) (value : Value) :
    Except UsageStop (Option Value) :=
  if current.isSome then .error .argumentConflict else .ok (some value)

def setPath (current : Option Path) (value : String) : Except UsageStop (Option Path) := do
  let path ← setOnce current ⟨value⟩
  if value = "" then .error .invalidValue else .ok path

def turnOn (current : Bool) : Except UsageStop Bool :=
  if current then .error .argumentConflict else .ok true

/-- Give a setting its value.  Extensions are separated by commas. -/
def assign (arguments : Arguments) (setting : Setting) (value : String) :
    Except UsageStop Arguments := do
  match setting with
  | .config =>
    let config ← setPath arguments.config value
    pure { arguments with config := config }
  | .entry => pure { arguments with entries := arguments.entries ++ [value] }
  | .context =>
    let context ← setPath arguments.context value
    pure { arguments with context := context }
  | .outputDirectory =>
    let outputDirectory ← setPath arguments.outputDirectory value
    pure { arguments with outputDirectory := outputDirectory }
  | .bundleName =>
    let bundleName ← setOnce arguments.bundleName value
    pure { arguments with bundleName := bundleName }
  | .extensions =>
    let given := arguments.extensions.getD [] ++ value.splitOn ","
    pure { arguments with extensions := some given }

def turn (arguments : Arguments) (switch : Switch) : Except UsageStop Arguments := do
  match switch with
  | .clean =>
    let clean ← turnOn arguments.clean
    pure { arguments with clean := clean }
  | .stats =>
    let stats ← turnOn arguments.stats
    pure { arguments with stats := stats }
  | .verbose =>
    let verbose ← turnOn arguments.verbose
    pure { arguments with verbose := verbose }
  | .help => .error .helpWanted
  | .version => .error .versionWanted

/-- A setting that waits to be settled, with the value it was given. -/
abbrev Waiting := Option (Setting × Option String)

def settle (arguments : Arguments) : Waiting → Except UsageStop Arguments
  | none => .ok arguments
  | some (_, none) => .error .invalidValue
  | some (setting, some value) => arguments.assign setting value

def takeFlag (arguments : Arguments) (waiting : Waiting) (flag : Flag) (attached : Option String) :
    Except UsageStop (Arguments × Waiting) :=
  match flag, attached with
  | .setting setting, some value => do
    let settled ← arguments.settle waiting
    let assigned ← settled.assign setting value
    pure (assigned, none)
  | .setting setting, none => do
    let settled ← arguments.settle waiting
    pure (settled, some (setting, none))
  | .switch _, some _ => .error .tooManyValues
  | .switch switch, none => do
    let settled ← arguments.settle waiting
    let turned ← settled.turn switch
    pure (turned, none)

/-- The value attached to a setting of one letter; a sign between the two does
not belong to it. -/
def attachedValue : List Char → Option String
  | [] => none
  | '=' :: rest => some (String.ofList rest)
  | rest => some (String.ofList rest)

/-- Take letters after a dash: switches, and then a setting with all that
follows as its value. -/
def takeLetters (arguments : Arguments) (waiting : Waiting) :
    List Char → Except UsageStop (Arguments × Waiting)
  | [] => .ok (arguments, waiting)
  | letter :: rest =>
    match flagLettered? letter with
    | none => .error .unknownArgument
    | some (.setting setting) =>
      takeFlag arguments waiting (.setting setting) (attachedValue rest)
    | some (.switch switch) => do
      let (turned, waiting) ← takeFlag arguments waiting (.switch switch) none
      takeLetters turned waiting rest

/-- Take a name after two dashes, with the value after the first sign. -/
def takeName (arguments : Arguments) (waiting : Waiting) (text : List Char) :
    Except UsageStop (Arguments × Waiting) :=
  let name := text.takeWhile (· ≠ '=')
  let attached :=
    match text.dropWhile (· ≠ '=') with
    | [] => none
    | _ :: value => some (String.ofList value)
  match flagNamed? (String.ofList name) with
  | none => .error .unknownArgument
  | some flag => takeFlag arguments waiting flag attached

/-- Take an argument that is no flag: the value of the setting that waits for
one. -/
def takeValue (arguments : Arguments) (waiting : Waiting) (value : String) :
    Except UsageStop (Arguments × Waiting) :=
  match waiting with
  | some (setting, none) => .ok (arguments, some (setting, some value))
  | _ => .error .unknownArgument

def takeArgument (arguments : Arguments) (waiting : Waiting) (argument : String) :
    Except UsageStop (Arguments × Waiting) :=
  match argument.toList with
  | '-' :: '-' :: name => takeName arguments waiting name
  | '-' :: letter :: letters => takeLetters arguments waiting (letter :: letters)
  | _ => takeValue arguments waiting argument

/-- Read arguments from the first on.  After two dashes alone nothing may
follow. -/
def readFrom (arguments : Arguments) (waiting : Waiting) :
    List String → Except UsageStop Arguments
  | [] => arguments.settle waiting
  | argument :: rest =>
    if argument = "--" then
      if rest.isEmpty then arguments.settle waiting else .error .unknownArgument
    else do
      let (taken, waiting) ← takeArgument arguments waiting argument
      readFrom taken waiting rest

/-- Read the arguments of the command. -/
def ofList (arguments : List String) : Except UsageStop Arguments :=
  readFrom .empty none arguments

end Arguments

end ScriptBundle
