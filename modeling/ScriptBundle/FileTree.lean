import ScriptBundle.Path

/-!
# File trees

A file tree says which locations below the root hold a file and which hold a
directory.  A path is resolved step by step: whatever the next segment is, the
place reached so far has to be a directory, and a `..` leads to the directory
above the one that was really reached.  This is where a path that is written
with `..` can mean less than its normalized form: every directory it names on
the way has to exist.

Operations that fail may already have changed the tree, the creation of
several directories in particular; what they did stays.
-/

namespace ScriptBundle

/-- Why an operation on files fails. -/
inductive FileError where
  | notFound
  | notDirectory
  | isDirectory
  | alreadyExists
  | nameTooLong
  | nullInPath
  | invalidText
deriving DecidableEq, Repr

/-- How a failure is worded. -/
def FileError.message : FileError → String
  | .notFound => "No such file or directory (os error 2)"
  | .notDirectory => "Not a directory (os error 20)"
  | .isDirectory => "Is a directory (os error 21)"
  | .alreadyExists => "File exists (os error 17)"
  | .nameTooLong => "File name too long (os error 36)"
  | .nullInPath => "file name contained an unexpected NUL byte"
  | .invalidText => "stream did not contain valid UTF-8"

/-- The names that lead from the root to a place. -/
abbrev Location := List String

/-- What a place holds. -/
inductive Entry where
  | file (content : ByteArray)
  | directory

instance : DecidableEq Entry
  | .file left, .file right =>
    match ByteArray.instDecidableEq left right with
    | isTrue same => isTrue (congrArg Entry.file same)
    | isFalse differ => isFalse fun same => differ (Entry.file.inj same)
  | .file _, .directory => isFalse Entry.noConfusion
  | .directory, .file _ => isFalse Entry.noConfusion
  | .directory, .directory => isTrue rfl

/-- The places of a tree that hold something.  The root is always a
directory. -/
structure FileTree where
  entries : List (Location × Entry)

namespace FileTree

/-- The tree in which only the root exists. -/
def empty : FileTree :=
  ⟨[]⟩

/-- What a place holds, if it exists. -/
def entryAt (tree : FileTree) (location : Location) : Option Entry :=
  if location = [] then
    some .directory
  else
    (tree.entries.find? fun entry => entry.1 = location).map Prod.snd

def hasDirectory (tree : FileTree) (location : Location) : Bool :=
  tree.entryAt location = some .directory

/-- Set what a place holds. -/
def put (tree : FileTree) (location : Location) (entry : Entry) : FileTree :=
  if (tree.entries.find? fun known => known.1 = location).isSome then
    ⟨tree.entries.map fun known => if known.1 = location then (location, entry) else known⟩
  else
    ⟨tree.entries ++ [(location, entry)]⟩

def removeBelow (tree : FileTree) (location : Location) : FileTree :=
  ⟨tree.entries.filter fun known => !location.isPrefixOf known.1⟩

def files (tree : FileTree) : List Location :=
  tree.entries.filterMap fun known =>
    match known.2 with
    | .file _ => some known.1
    | .directory => none

/-- How many bytes a name may have. -/
def nameLimit : Nat :=
  255

/-- How many bytes a path may have. -/
def pathLimit : Nat :=
  4095

/-- The place one segment leads to.  The place it starts from has to be a
directory; a place it leads to need not exist. -/
def enter (tree : FileTree) (current : Location) (segment : List Char) :
    Except FileError Location :=
  if !tree.hasDirectory current then
    .error .notDirectory
  else if segment = [] || segment = ['.'] then
    .ok current
  else if segment = ['.', '.'] then
    .ok current.dropLast
  else if (String.ofList segment).utf8ByteSize > nameLimit then
    .error .nameTooLong
  else
    .ok (current ++ [String.ofList segment])

/-- The place that one segment leads to, which has to exist. -/
def step (tree : FileTree) (current : Location) (segment : List Char) :
    Except FileError Location := do
  let next ← tree.enter current segment
  if (tree.entryAt next).isSome then pure next else .error .notFound

/-- The place that segments lead to. -/
def walk (tree : FileTree) (current : Location) : List (List Char) → Except FileError Location
  | [] => .ok current
  | segment :: rest => do
    let next ← tree.step current segment
    tree.walk next rest

def startOf (workingDirectory : Location) (path : Path) :
    Except FileError (Location × List (List Char)) :=
  let segments := Path.segmentsOf path.characters
  if path.text = "" then .error .notFound
  else if path.characters.contains '\x00' then .error .nullInPath
  else if path.text.utf8ByteSize > pathLimit then .error .nameTooLong
  else if path.isAbsolute then .ok ([], segments.drop 1)
  else .ok (workingDirectory, segments)

/-- The existing place a path leads to. -/
def resolve (tree : FileTree) (workingDirectory : Location) (path : Path) :
    Except FileError Location := do
  let (start, segments) ← startOf workingDirectory path
  tree.walk start segments

def lookup (tree : FileTree) (workingDirectory : Location) (path : Path) :
    Except FileError Entry := do
  let location ← tree.resolve workingDirectory path
  match tree.entryAt location with
  | some entry => pure entry
  | none => .error .notFound

def isFile (tree : FileTree) (workingDirectory : Location) (path : Path) : Bool :=
  match tree.lookup workingDirectory path with
  | .ok (.file _) => true
  | _ => false

def isDirectory (tree : FileTree) (workingDirectory : Location) (path : Path) : Bool :=
  match tree.lookup workingDirectory path with
  | .ok .directory => true
  | _ => false

/-- Whether a path leads to anything. -/
def exists? (tree : FileTree) (workingDirectory : Location) (path : Path) : Bool :=
  match tree.lookup workingDirectory path with
  | .ok _ => true
  | .error _ => false

def readText (tree : FileTree) (workingDirectory : Location) (path : Path) :
    Except FileError String := do
  match ← tree.lookup workingDirectory path with
  | .directory => .error .isDirectory
  | .file content =>
    match String.fromUTF8? content with
    | some text => pure text
    | none => .error .invalidText

/-- The place a path names, in a directory that exists; `refused` is the
failure when the path does not end in a name. -/
def placeOf (tree : FileTree) (workingDirectory : Location) (path : Path) (refused : FileError)
    (trailingSlash : Option FileError) : Except FileError Location := do
  let (start, segments) ← startOf workingDirectory path
  let named := (segments.reverse.dropWhile (· = [])).reverse
  let parent ← tree.walk start named.dropLast
  match named.getLast? with
  | none => .error refused
  | some last =>
    let place ← tree.enter parent last
    if last = ['.'] || last = ['.', '.'] then
      .error refused
    else if named.length < segments.length then
      match trailingSlash with
      | some failure => .error failure
      | none => pure place
    else
      pure place

def writeFile (tree : FileTree) (workingDirectory : Location) (path : Path) (content : ByteArray) :
    Except FileError FileTree := do
  let place ← tree.placeOf workingDirectory path .isDirectory (some .isDirectory)
  match tree.entryAt place with
  | some .directory => .error .isDirectory
  | _ => pure (tree.put place (.file content))

def makeDirectory (tree : FileTree) (workingDirectory : Location) (path : Path) :
    Except FileError FileTree := do
  let place ← tree.placeOf workingDirectory path .alreadyExists none
  match tree.entryAt place with
  | some _ => .error .alreadyExists
  | none => pure (tree.put place .directory)

/-- A path and the paths of the directories above it, the nearest first. -/
def ancestorsOf : Nat → Path → List Path
  | 0, _ => []
  | fuel + 1, path =>
    if path.text = "" then []
    else
      match path.parent with
      | none => []
      | some parent => path :: ancestorsOf fuel parent

/-- Make the directories that `missing` names, outermost first.  One that came
to be in the meantime is accepted. -/
def makeMissing (workingDirectory : Location) (tree : FileTree) :
    List Path → FileTree × Except FileError Unit
  | [] => (tree, .ok ())
  | path :: rest =>
    match tree.makeDirectory workingDirectory path with
    | .ok changed => makeMissing workingDirectory changed rest
    | .error failure =>
      if failure = .alreadyExists && tree.isDirectory workingDirectory path then
        makeMissing workingDirectory tree rest
      else
        (tree, .error failure)

/-- Make a directory and those above it: go up from the path until one can be
made or is there, then make those below it. -/
def makeUpwards (workingDirectory : Location) (tree : FileTree) (missing : List Path) :
    List Path → FileTree × Except FileError Unit
  | [] => makeMissing workingDirectory tree missing
  | path :: above =>
    match tree.makeDirectory workingDirectory path with
    | .ok changed => makeMissing workingDirectory changed missing
    | .error .notFound => makeUpwards workingDirectory tree (path :: missing) above
    | .error failure =>
      if failure = .alreadyExists && tree.isDirectory workingDirectory path then
        makeMissing workingDirectory tree missing
      else
        (tree, .error failure)

/-- Make a directory and those above it that are missing. -/
def makeDirectories (tree : FileTree) (workingDirectory : Location) (path : Path) :
    FileTree × Except FileError Unit :=
  makeUpwards workingDirectory tree [] (ancestorsOf (path.characters.length + 1) path)

def removeDirectory (tree : FileTree) (workingDirectory : Location) (path : Path) :
    Except FileError FileTree := do
  let location ← tree.resolve workingDirectory path
  if tree.hasDirectory location then
    pure (tree.removeBelow location)
  else
    .error .notDirectory

end FileTree

end ScriptBundle
