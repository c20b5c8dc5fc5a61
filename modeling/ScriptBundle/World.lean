import ScriptBundle.Failure
import ScriptBundle.Text

/-!
# Effects

A build acts on a world: a file tree, the directory it was started in, and a
journal of what it did.  Every effect is an event of the journal, in order, so
that the order of effects can be spoken about; some events are also shown to
the user as lines of a log.

An action that fails leaves the world as it was when it failed.
-/

namespace ScriptBundle

/-- Something that happened during a build. -/
inductive Event where
  /-- A path was asked whether it leads to a file. -/
  | probed (path : Path) (isFile : Bool)
  /-- The text of a file was asked for. -/
  | read (path : Path)
  | resolved (specifier : String) (path : Path)
  | building (id entry : String)
  | applyingLoader (loader : String) (path : Path)
  | linked (path : Path) (requireCount freshCount : Nat)
  | applyingPlugin (name : String)
  | callingTap (hook : Hook) (name : String)
  | rendering (chunk : String) (moduleCount : Nat) (path : Path)
  | cleaning (path : Path)
  | wrote (path : Path)
  /-- The build announced a hook to the user. -/
  | announced (hook : Hook)
  | loadingConfig (path : Path)
  | noConfig (name : String)
  /-- Something a tap notes down for itself. -/
  | noted (text : String)
deriving DecidableEq, Repr

/-- How much a line of the log matters. -/
inductive LogLevel where
  | info
  | debug
deriving DecidableEq, Repr

def Event.logLine? : Event → Option (LogLevel × String)
  | .probed _ _ => none
  | .read _ => none
  | .resolved specifier path => some (.debug, "resolved '" ++ specifier ++ "' to " ++ path.text)
  | .building id entry => some (.debug, "building " ++ id ++ " for entry '" ++ entry ++ "'")
  | .applyingLoader loader path =>
    some (.debug, "applying loader '" ++ loader ++ "' to " ++ path.text)
  | .linked path requireCount freshCount =>
    some (.debug, "rewrote " ++ path.text ++ " (" ++ toString requireCount ++ " requires, " ++
      toString freshCount ++ " new)")
  | .applyingPlugin name => some (.debug, "applying plugin '" ++ name ++ "'")
  | .callingTap hook name => some (.debug, "calling " ++ hook.name ++ " tap '" ++ name ++ "'")
  | .rendering chunk moduleCount path =>
    some (.debug, "rendering chunk '" ++ chunk ++ "' with " ++ toString moduleCount ++
      " modules to " ++ path.text)
  | .cleaning path => some (.debug, "cleaning " ++ path.text)
  | .wrote path => some (.info, "wrote " ++ path.text)
  | .announced hook => some (.info, "tinypack " ++ hook.name)
  | .loadingConfig path => some (.debug, "loading config from " ++ path.text)
  | .noConfig name => some (.debug, "no " ++ name ++ " found, using defaults")
  | .noted _ => none

/-- What a build acts on. -/
structure World where
  tree : FileTree
  workingDirectory : Location
  journal : List Event

namespace World

def record (world : World) (event : Event) : World :=
  { world with journal := world.journal ++ [event] }

def workingPath (world : World) : Path :=
  ⟨"/" ++ "/".intercalate world.workingDirectory⟩

end World

abbrev Action (Cause Result : Type) := ExceptT Cause (StateM World) Result

abbrev Build (Result : Type) := Action BuildError Result

namespace Build

/-- Note an event in the journal. -/
def record {Cause : Type} (event : Event) : Action Cause Unit :=
  modify fun world => world.record event

def isFile (path : Path) : Build Bool := do
  let world ← get
  let found := world.tree.isFile world.workingDirectory path
  record (.probed path found)
  pure found

/-- Whether a path leads to anything. -/
def pathExists (path : Path) : Build Bool := do
  let world ← get
  pure (world.tree.exists? world.workingDirectory path)

def readFile (path : Path) : Build String := do
  record (.read path)
  let world ← get
  match world.tree.readText world.workingDirectory path with
  | .ok text => pure text
  | .error cause => throw (.read path cause)

/-- Make a directory and those above it that are missing. -/
def makeDirectories (path : Path) : Build Unit := do
  let world ← get
  let (tree, result) := world.tree.makeDirectories world.workingDirectory path
  set { world with tree := tree }
  match result with
  | .ok () => pure ()
  | .error cause => throw (.write path cause)

def writeFile (path : Path) (text : String) : Build Unit := do
  let world ← get
  match world.tree.writeFile world.workingDirectory path text.toUTF8 with
  | .ok tree => set { world with tree := tree }
  | .error cause => throw (.write path cause)

def removeDirectory (path : Path) : Build Unit := do
  let world ← get
  match world.tree.removeDirectory world.workingDirectory path with
  | .ok tree => set { world with tree := tree }
  | .error cause => throw (.write path cause)

end Build

end ScriptBundle
