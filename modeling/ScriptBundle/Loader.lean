import ScriptBundle.Config
import ScriptBundle.Json.Reader
import ScriptBundle.World
import ScriptBundle.Text

/-!
# Loaders

A loader turns the text of a module into another text.  The rules of a
configuration select loaders by the path of the module; the loaders of all
rules that apply are lined up in the order of the rules and run from the last
to the first, each on the result of the one after it.
-/

namespace ScriptBundle

/-- A named transformation of module texts.  It is told the path of the
module. -/
structure Loader where
  name : String
  transform : String → Path → Except Failure String

namespace Loader

/-- The loader that drops a byte order mark. -/
def stripMark : Loader :=
  ⟨"strip-bom", fun source _ => .ok (Literal.withoutMark source)⟩

/-- The loader that turns a JSON document into a module that exports its
value. -/
def json : Loader :=
  ⟨"json", fun source path =>
    let document := Literal.withoutMark source
    match Json.valueOfText document with
    | .ok _ => .ok (Literal.jsonModule document)
    | .error fault =>
      .error ((Failure.ofMessage fault.message).within (path.text ++ " is not valid JSON"))⟩

def run (loader : Loader) (path : Path) (source : String) : Build String := do
  Build.record (.applyingLoader loader.name path)
  match loader.transform source path with
  | .ok result => pure result
  | .error cause => throw (.transform loader.name path cause)

end Loader

/-- The loaders that rules can name. -/
structure LoaderRegistry where
  loaders : List Loader

namespace LoaderRegistry

def empty : LoaderRegistry :=
  ⟨[]⟩

/-- Add a loader, in place of one with the same name. -/
def add (registry : LoaderRegistry) (loader : Loader) : LoaderRegistry :=
  ⟨registry.loaders.filter (fun known => known.name ≠ loader.name) ++ [loader]⟩

def default : LoaderRegistry :=
  (empty.add Loader.stripMark).add Loader.json

def get? (registry : LoaderRegistry) (name : String) : Option Loader :=
  registry.loaders.find? fun loader => loader.name = name

/-- The names of all loaders in order, as text. -/
def text (registry : LoaderRegistry) : String :=
  let names := (registry.loaders.map Loader.name).mergeSort fun left right => left ≤ right
  "LoaderRegistry \x7b loaders: " ++ Quoted.quoteList names ++ " \x7d"

end LoaderRegistry

/-- Rules with the loaders they name. -/
structure Pipeline where
  rules : List (Rule × List Loader)

namespace Pipeline

def loaderNamed (registry : LoaderRegistry) (name : String) : Except BuildError Loader :=
  match registry.get? name with
  | some loader => .ok loader
  | none => .error (.configuration (.unknownLoader name))

def ofRules (registry : LoaderRegistry) (rules : List Rule) : Except BuildError Pipeline := do
  let linked ← rules.mapM fun rule => do
    let loaders ← rule.loaders.mapM (loaderNamed registry)
    pure (rule, loaders)
  pure ⟨linked⟩

def matching (pipeline : Pipeline) (path : Path) : List Loader :=
  let shown := Path.slashed path.text
  (pipeline.rules.filter fun rule => rule.1.appliesTo shown).flatMap Prod.snd

def runLoaders (path : Path) (loaders : List Loader) (source : String) : Build String :=
  loaders.reverse.foldlM (fun text loader => loader.run path text) source

/-- Run the loaders for a path on the text of its module. -/
def apply (pipeline : Pipeline) (path : Path) (source : String) : Build String :=
  runLoaders path (pipeline.matching path) source

end Pipeline

end ScriptBundle
