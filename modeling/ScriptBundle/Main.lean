import ScriptBundle.Command

/-!
# The program

The command acts on a tree of files in memory.  The program takes that tree
from the disk and puts what has changed back.  It starts with the working
directory and everything below it; whatever else the command asks for is
looked up afterwards, and the command is carried out anew.
-/

namespace ScriptBundle.Program

/-- How a place is written on the disk. -/
def diskName (location : Location) : String :=
  "/" ++ "/".intercalate location

/-- The place that a path leads to when it is read without looking. -/
def locationOf (workingDirectory : Path) (path : Path) : Location :=
  ((workingDirectory.join path).normalize.text.splitOn "/").filter (· ≠ "")

/-- The tree with what a single place of the disk holds. -/
def loadPlace (tree : FileTree) (location : Location) : IO FileTree := do
  let place := (← IO.currentDir) / diskName location
  if ← place.isDir then
    pure (tree.put location .directory)
  else if ← place.pathExists then
    pure (tree.put location (.file (← IO.FS.readBinFile place)))
  else
    pure tree

/-- The tree with what a place and those above it hold. -/
def loadAlong (tree : FileTree) (location : Location) : IO FileTree :=
  (List.range location.length).foldlM
    (fun tree count => loadPlace tree (location.take (count + 1))) tree

/-- The tree with a place and everything below it. -/
partial def loadBelow (tree : FileTree) (location : Location) : IO FileTree := do
  let tree ← loadPlace tree location
  let place := (← IO.currentDir) / diskName location
  if ← place.isDir then
    (← place.readDir).foldlM (fun tree entry => loadBelow tree (location ++ [entry.fileName])) tree
  else
    pure tree

/-- The path that an event asks for, and whether it asks for everything
below. -/
def wanted? : Event → Option (Path × Bool)
  | .probed path _ => some (path, false)
  | .read path => some (path, false)
  | .wrote path => some (path, false)
  | .cleaning path => some (path, true)
  | _ => none

/-- The tree with the places that events ask for. -/
def loadWanted (world : World) (tree : FileTree) (wanted : List (Path × Bool)) : IO FileTree :=
  wanted.foldlM (fun tree (path, everything) => do
    let location := locationOf world.workingPath path
    let tree ← loadAlong tree location
    if everything then loadBelow tree location else pure tree) tree

/-- Carry the command out on a tree of the disk, and again as long as it asks
for places that were not looked up.  Places below the working directory are
known from the start.  The result comes with the tree before and the world
after. -/
partial def carryOut (arguments : Arguments) (world : World) (seen : List (Path × Bool)) :
    IO (Except Failure (List String) × FileTree × World) := do
  let (result, after) := Id.run ((ExceptT.run (Command.run arguments)).run world)
  let isFresh (wanted : Path × Bool) : Bool :=
    !seen.contains wanted &&
      !world.workingDirectory.isPrefixOf (locationOf world.workingPath wanted.1)
  let fresh := ((after.journal.filterMap wanted?).filter isFresh).eraseDups
  if fresh.isEmpty then
    pure (result, world.tree, after)
  else
    let tree ← loadWanted world world.tree fresh
    carryOut arguments { world with tree := tree } (seen ++ fresh)

/-- Remove from the disk what a tree no longer holds, deeper places first. -/
def removeGone (before after : FileTree) : IO Unit := do
  let gone := before.entries.filter fun (location, _) => (after.entryAt location).isNone
  for (location, entry) in gone.mergeSort fun left right => left.1.length ≥ right.1.length do
    match entry with
    | .file _ => IO.FS.removeFile (diskName location)
    | .directory => IO.FS.removeDir (diskName location)

/-- Write to the disk what a tree holds anew, outer places first. -/
def writeChanged (before after : FileTree) : IO Unit := do
  let changed := after.entries.filter fun (location, entry) =>
    before.entryAt location ≠ some entry
  for (location, entry) in changed.mergeSort fun left right => left.1.length ≤ right.1.length do
    match entry with
    | .file content => IO.FS.writeBinFile (diskName location) content
    | .directory => IO.FS.createDirAll (diskName location)

/-- What the arguments of the command mean, line by line. -/
def usageLines : List String :=
  ["Bundles CommonJS modules into one self-contained script per entry",
    "",
    "Usage: tinypack [OPTIONS]",
    "",
    "  -c, --config <CONFIG>           the config file",
    "  -e, --entry <ENTRY>             an entry as name=path, or the path of the main entry",
    "      --context <CONTEXT>         the directory that entries and module ids start from",
    "  -o, --output-path <DIR>         the directory the bundles are written to",
    "      --output-filename <NAME>    the name of a bundle, with [name] for its entry",
    "      --extensions <EXTENSIONS>   what is tried after a required path, separated by commas",
    "      --clean                     remove the output directory before writing",
    "      --stats                     print the modules embedded in each bundle",
    "  -v, --verbose                   tell what happens",
    "  -h, --help                      print this text",
    "  -V, --version                   print the version"]

/-- What is told in place of carrying the command out: what is wrong with its
arguments, or what they ask for. -/
def usageText : UsageStop → String
  | .unknownArgument => "error: unexpected argument"
  | .invalidValue => "error: a value is required"
  | .argumentConflict => "error: an argument cannot be used multiple times"
  | .tooManyValues => "error: unexpected value for an argument"
  | .helpWanted => "\n".intercalate usageLines
  | .versionWanted => "tinypack 0.1.0"

/-- Tell why the command is not carried out. -/
def stop (reason : UsageStop) : IO UInt32 := do
  if reason.isFault then
    IO.eprintln (usageText reason)
    pure 2
  else
    IO.println (usageText reason)
    pure 0

/-- Carry the command out on the disk. -/
def onDisk (arguments : Arguments) : IO UInt32 := do
  let workingDirectory := locationOf ⟨"/"⟩ ⟨(← IO.currentDir).toString⟩
  let outer ← loadAlong .empty workingDirectory
  let tree ← loadBelow outer workingDirectory
  let (result, before, after) ← carryOut arguments ⟨tree, workingDirectory, []⟩ []
  removeGone before after.tree
  writeChanged before after.tree
  if arguments.verbose then
    (after.journal.filterMap Event.logLine?).forM fun line => IO.eprintln line.2
  match result with
  | .ok lines =>
    lines.forM fun line => IO.println line
    pure 0
  | .error failure =>
    IO.eprintln (Command.complaint failure)
    pure 1

end ScriptBundle.Program

/-- Read the arguments of the command and carry it out. -/
def main (arguments : List String) : IO UInt32 :=
  match ScriptBundle.Arguments.ofList arguments with
  | .ok read => ScriptBundle.Program.onDisk read
  | .error reason => ScriptBundle.Program.stop reason
