import ScriptBundle.World
import ScriptBundle.Script.Printer
import ScriptBundle.Script.Rules

/-!
# Resolution and linking

A specifier is a route from the directory of the module that names it.  The
file at the end of the route is looked for as the route is written, and then
with each extension written after it, in the order of the extensions; the
first that is there is taken.

A module is embedded with every specifier replaced by the identifier of the
module it leads to.  On the way the identifiers are collected, each once, and
so are the files whose modules are not known yet.

A text that is no script is refused before any specifier is resolved; the
first specifier that leads nowhere ends the linking.
-/

namespace ScriptBundle

def candidates (extensions : List String) (directory : Path) (specifier : String) : List Path :=
  ("" :: extensions).map (directory.join ⟨specifier⟩).normalize.append

namespace Build

/-- The first path of a list that leads to a file.  No path after it is asked
for. -/
def firstFile : List Path → Build (Option Path)
  | [] => pure none
  | path :: rest => do
    if ← isFile path then pure (some path) else firstFile rest

def resolve (extensions : List String) (directory : Path) (specifier : String) : Build Path := do
  match ← firstFile (candidates extensions directory specifier) with
  | some path =>
    record (.resolved specifier path)
    pure path
  | none => throw (.resolution specifier directory)

end Build

/-- The modules that a module refers to. -/
structure References where
  /-- The files of the modules that were not known, in order. -/
  dependencies : List Path
  /-- The identifiers of all modules, in order. -/
  requires : List String
deriving DecidableEq, Repr

namespace References

def none : References :=
  ⟨[], []⟩

/-- The references with one more, unless it is there already. -/
def add (references : References) (known : String → Bool) (id : String) (path : Path) :
    References :=
  if references.requires.contains id then
    references
  else
    ⟨if known id then references.dependencies else references.dependencies ++ [path],
      references.requires ++ [id]⟩

end References

/-- A module as it is embedded, with the modules it refers to. -/
structure LinkedModule where
  code : String
  references : References
deriving DecidableEq, Repr

/-- What decides to which module a specifier leads. -/
structure Linker where
  /-- The directory that identifiers start from. -/
  root : Path
  extensions : List String
deriving DecidableEq, Repr

namespace Linker

/-- The identifier of the module that a specifier leads to, which is added to
the references. -/
def identify (linker : Linker) (directory : Path) (known : String → Bool)
    (specifier : String) : StateT References (Action BuildError) String := do
  let path ← (Build.resolve linker.extensions directory specifier : Build Path)
  let id := Path.identifier linker.root path
  modify fun references => references.add known id path
  pure id

/-- Link the text of the module at a path to the modules it requires. -/
def link (linker : Linker) (known : String → Bool) (path : Path) (source : String) :
    Build LinkedModule := do
  match Script.Program.read? source with
  | .none => throw (.parse path)
  | some program =>
    let (tree, references) ←
      (program.tree.replaceSpecifiers (linker.identify path.directory known)).run .none
    let code := { program with tree := tree }.print
    Build.record (.linked path references.requires.length references.dependencies.length)
    pure ⟨code, references⟩

end Linker

end ScriptBundle
