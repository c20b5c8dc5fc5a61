import ScriptBundle.Bundler
import ScriptBundle.Command.Arguments
import ScriptBundle.Config

/-!
# The command

The command bundles what a configuration file describes; its arguments take
precedence over the file.  It says which files it wrote and, if asked, which
modules each bundle holds.  A failure is told with everything that led to it.
-/

namespace ScriptBundle

namespace Config

/-- The configuration in a file. -/
def load (path : Path) : Build Config := do
  let text ← Build.readFile path
  (ofFileText path text : Except BuildError Config)

/-- A configuration from a file, whose paths start from the directory of the
file. -/
def basedAt (config : Config) (path : Path) : Config :=
  match path.parent with
  | some base =>
    if base.text = "" then config
    else { config with context := some ((config.context.map base.join).getD base) }
  | none => config

end Config

namespace Entries

/-- An entry as it is written: a name, a sign and a path, or only a path. -/
def splitEntry (text : String) : String × String :=
  let characters := text.toList
  match characters.dropWhile (· ≠ '=') with
  | [] => (defaultName, text)
  | _ :: path => (String.ofList (characters.takeWhile (· ≠ '=')), String.ofList path)

/-- Read entries after those that were read already.  Each has a name and a
path, and no name is given twice. -/
def readNamed (entries : NamedPaths) : List String → Except Failure NamedPaths
  | [] => .ok entries
  | text :: rest =>
    let (name, path) := splitEntry text
    if name = "" || path = "" then
      .error (.ofMessage ("Invalid entry '" ++ text ++ "', expected name=path"))
    else if entries.hasName name then
      .error (.ofMessage ("Entry '" ++ name ++ "' given more than once"))
    else
      readNamed (entries.insert name path) rest

/-- Read the entries that arguments give.  A path alone is the entry of a
configuration that has only one. -/
def ofArguments (texts : List String) : Except Failure Entries :=
  match texts with
  | [text] =>
    if text.toList.contains '=' then .named <$> readNamed .empty [text] else .ok (.single text)
  | _ => .named <$> readNamed .empty texts

end Entries

namespace Command

def told {Result : Type} (action : Build Result) : Action Failure Result :=
  ExceptT.adapt BuildError.toFailure action

def loadFile (path : Path) : Action Failure Config := do
  Build.record (.loadingConfig path)
  let config ← ExceptT.adapt (fun error : BuildError =>
    error.toFailure.within ("Failed to load config " ++ path.text)) (Config.load path)
  pure (config.basedAt path)

/-- The configuration that arguments name, or the one in the working directory,
or else the one that says nothing. -/
def chooseConfig (arguments : Arguments) : Action Failure Config := do
  match arguments.config with
  | some path => loadFile path
  | none =>
    if ← told (Build.isFile ⟨Config.defaultFileName⟩) then
      loadFile ⟨Config.defaultFileName⟩
    else
      Build.record (.noConfig Config.defaultFileName)
      pure .default

/-- A configuration with what arguments say in place of its own. -/
def withArguments (config : Config) (arguments : Arguments) : Except Failure Config := do
  let entries ←
    if arguments.entries.isEmpty then pure config.entries
    else Entries.ofArguments arguments.entries
  pure { config with
    entries := entries
    context := arguments.context.or config.context
    extensions := arguments.extensions.getD config.extensions
    output := {
      directory := arguments.outputDirectory.getD config.output.directory
      filename := arguments.bundleName.getD config.output.filename
      clean := config.output.clean || arguments.clean } }

/-- The modules of a bundle below its name and its file. -/
def assetSummary (asset : Asset) : String :=
  asset.chunk.name ++ " -> " ++ asset.path.text ++ "\n" ++
    "\n".intercalate (asset.chunk.modules.map fun member => "  " ++ member.id)

/-- The modules of all bundles. -/
def summary (output : BuildResult) : String :=
  "\n".intercalate (output.assets.map assetSummary)

def report (arguments : Arguments) (output : BuildResult) : List String :=
  output.files.map Path.text ++ if arguments.stats then [summary output] else []

/-- Carry out the command; the result is what it prints. -/
def run (arguments : Arguments) : Action Failure (List String) := do
  let loaded ← chooseConfig arguments
  let config ← (withArguments loaded arguments : Except Failure Config)
  let output ← told (do
    let bundler ← Bundler.ofConfig .default config
    bundler.run)
  pure (report arguments output)

def complaint (failure : Failure) : String :=
  "tinypack: " ++ ": ".intercalate failure.chain

end Command

end ScriptBundle
