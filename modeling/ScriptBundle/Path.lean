/-!
# Paths

A path is a text whose segments are separated by slashes.  Its *components*
are what is left once empty segments and the `.` segments that name nothing
new are dropped.  Lexical normalization also cancels `..` against the name
before it, without looking at any file, so that two routes to one place
become one text.

The two views are kept apart on purpose: a path is joined and shown as the
text that was written, and compared, normalized and shortened by its
components.
-/

namespace ScriptBundle

/-- A path as it is written, with `/` between its segments. -/
structure Path where
  text : String
deriving DecidableEq, Repr, Inhabited

namespace Path

/-- The segments of a text between its slashes, empty ones included. -/
def segmentsOf : List Char → List (List Char)
  | [] => [[]]
  | character :: rest =>
    if character = '/' then
      [] :: segmentsOf rest
    else
      match segmentsOf rest with
      | [] => [[character]]
      | first :: others => (character :: first) :: others

/-- Segments written one after the other with a slash between them. -/
def joinSegments : List (List Char) → List Char
  | [] => []
  | [segment] => segment
  | segment :: others => segment ++ '/' :: joinSegments others

/-- A segment that names no step of its own. -/
def isBlank (segment : List Char) : Bool :=
  segment = [] || segment = ['.']

/-- One step of a path. -/
inductive Component where
  /-- The leading slash of an absolute path. -/
  | root
  /-- A leading `.` of a relative path. -/
  | here
  /-- A `..` step. -/
  | up
  /-- A step to the named child. -/
  | name (text : List Char)
deriving DecidableEq, Repr

def Component.ofSegment (segment : List Char) : Component :=
  if segment = ['.', '.'] then .up else .name segment

def Component.segment : Component → List Char
  | .root => []
  | .here => ['.']
  | .up => ['.', '.']
  | .name text => text

def characters (path : Path) : List Char :=
  path.text.toList

def isAbsolute (path : Path) : Bool :=
  path.characters.head? = some '/'

def startsHere (path : Path) : Bool :=
  (segmentsOf path.characters).head? = some ['.']

/-- The steps a path is made of. -/
def components (path : Path) : List Component :=
  let segments := segmentsOf path.characters
  let lead : List Component :=
    if path.isAbsolute then [.root]
    else if path.startsHere then [.here]
    else []
  lead ++ (segments.filter (!isBlank ·)).map Component.ofSegment

def ofComponents : List Component → Path
  | .root :: others => ⟨String.ofList ('/' :: joinSegments (others.map Component.segment))⟩
  | others => ⟨String.ofList (joinSegments (others.map Component.segment))⟩

def sameSteps (left right : Path) : Bool :=
  left.components = right.components

/-- Whether the steps of `path` begin with those of `ancestor`. -/
def startsWith (path ancestor : Path) : Bool :=
  ancestor.components.isPrefixOf path.components

/-- `path` taken from `base`: an absolute path stands for itself, any other is
written after the base, with a slash between them unless there is one. -/
def join (base path : Path) : Path :=
  if path.isAbsolute then
    path
  else if base.text = "" || base.characters.getLast? = some '/' then
    ⟨base.text ++ path.text⟩
  else
    ⟨base.text ++ "/" ++ path.text⟩

/-- A path with a text written directly after it. -/
def append (path : Path) (suffix : String) : Path :=
  ⟨path.text ++ suffix⟩

/-- The text before the last step of a path, if it has a step other than the
leading slash.  Blank segments before the cut are dropped with it. -/
def parent (path : Path) : Option Path :=
  let lead : List Char :=
    if path.isAbsolute then ['/'] else if path.startsHere then ['.'] else []
  let body := path.characters.drop lead.length
  match (segmentsOf body).reverse.dropWhile isBlank with
  | [] => if path.startsHere then some ⟨""⟩ else none
  | _ :: before =>
    some ⟨String.ofList (lead ++ joinSegments (before.dropWhile isBlank).reverse)⟩

/-- The directory that relative routes of the file at `path` start from. -/
def directory (path : Path) : Path :=
  path.parent.getD ⟨""⟩

/-- The components kept so far, latest first, after one more component.  A
`..` cancels a name, stays at the root, and is kept where nothing is left to
cancel. -/
def normalizeStep (kept : List Component) : Component → List Component
  | .here => kept
  | .up =>
    match kept with
    | .name _ :: before => before
    | .root :: _ => kept
    | _ => .up :: kept
  | component => component :: kept

/-- Components with every `.` dropped and every `..` cancelled as far as
possible. -/
def normalizeComponents (steps : List Component) : List Component :=
  (steps.foldl normalizeStep []).reverse

/-- The path without `.` steps and with `..` only where nothing before it can
be cancelled.  No file is consulted. -/
def normalize (path : Path) : Path :=
  ofComponents (normalizeComponents path.components)

/-- A text with every backslash turned into a slash. -/
def slashed (text : String) : String :=
  String.ofList (text.toList.map fun character => if character = '\\' then '/' else character)

/-- The steps that lead from `base` to `target`.  `started` tells whether a
step was already produced: only before that are shared steps skipped. -/
def routeSteps (started : Bool) :
    List Component → List Component → Option (List Component)
  | target, [] => some target
  | [], _ :: base => (routeSteps true [] base).map (.up :: ·)
  | step :: target, baseStep :: base =>
    if !started && step = baseStep then
      routeSteps false target base
    else if baseStep = .here then
      (routeSteps true target base).map (step :: ·)
    else if baseStep = .up then
      none
    else
      some (.up :: base.map (fun _ => .up) ++ step :: target)

/-- The route from the directory `base` to `target`, where one can be told
from the texts alone. -/
def relativeTo (target base : Path) : Option Path :=
  if target.isAbsolute = base.isAbsolute then
    (routeSteps false target.components base.components).map ofComponents
  else if target.isAbsolute then
    some target
  else
    none

/-- The identifier of the module in `file`: `./` and the route to the file
from `root`, written with slashes only.  It depends on neither the separator
in use nor the route by which the file was reached. -/
def identifier (root file : Path) : String :=
  let file := file.normalize
  "./" ++ slashed ((file.relativeTo root).getD file).text

end Path

end ScriptBundle
