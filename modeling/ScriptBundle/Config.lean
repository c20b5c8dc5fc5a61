import ScriptBundle.Failure
import ScriptBundle.Text
import ScriptBundle.Json.Reader

/-!
# Configurations

A configuration names the entries of a build, where its paths start from,
where the bundles go, which loaders apply to which files, and how a required
file is looked for.  Every part has a default.

A configuration is written as JSON.  Its parts are records whose fields may
come in any order; fields that are not known are refused.
-/

namespace ScriptBundle

/-- Paths by name, in the order in which the names came first.  No name is
there twice. -/
structure NamedPaths where
  pairs : List (String × String)
  distinct : (pairs.map Prod.fst).Nodup
deriving DecidableEq, Repr

namespace NamedPaths

def empty : NamedPaths :=
  ⟨[], List.nodup_nil⟩

def hasName (paths : NamedPaths) (name : String) : Bool :=
  (paths.pairs.map Prod.fst).contains name

/-- Put a path in the place of the one with its name, or at the end. -/
def insert (paths : NamedPaths) (name path : String) : NamedPaths :=
  if known : paths.hasName name then
    ⟨paths.pairs.map fun pair => if pair.1 = name then (name, path) else pair, by
      have sameNames : (paths.pairs.map fun pair =>
          if pair.1 = name then (name, path) else pair).map Prod.fst =
          paths.pairs.map Prod.fst := by
        rw [List.map_map]
        refine List.map_congr_left fun pair _ => ?_
        by_cases same : pair.1 = name <;> simp [same]
      rw [sameNames]
      exact paths.distinct⟩
  else
    ⟨paths.pairs ++ [(name, path)], by
      have fresh : name ∉ paths.pairs.map Prod.fst := by
        simpa [hasName] using known
      rw [List.map_append, List.nodup_append]
      refine ⟨paths.distinct, by simp, fun earlier member added single => ?_⟩
      have addedName : added = name := by simpa using single
      rintro rfl
      exact fresh (addedName ▸ member)⟩

def ofPairs (pairs : List (String × String)) : NamedPaths :=
  pairs.foldl (fun paths pair => paths.insert pair.1 pair.2) .empty

end NamedPaths

/-- The entries of a build: one path, or paths by name. -/
inductive Entries where
  | single (path : String)
  | named (paths : NamedPaths)
deriving DecidableEq, Repr

namespace Entries

def defaultName : String :=
  "main"

def default : Entries :=
  .single "./src/index.js"

def toList : Entries → List (String × String)
  | .single path => [(defaultName, path)]
  | .named paths => paths.pairs

end Entries

/-- Where bundles go. -/
structure Output where
  directory : Path
  /-- The name of a bundle, in which `[name]` stands for the name of its entry. -/
  filename : String
  /-- Whether the directory is removed before the bundles are written. -/
  clean : Bool
deriving DecidableEq, Repr

namespace Output

/-- The output of a configuration that does not speak of it. -/
def default : Output :=
  ⟨⟨"dist"⟩, "[name].js", false⟩

def bundleName (output : Output) (entry : String) : String :=
  Text.replaceAll output.filename "[name]" entry

end Output

/-- Loaders for the files whose path matches a pattern and does not match
another. -/
structure Rule where
  test : Pattern
  exclude : Option Pattern
  loaders : List String

namespace Rule

/-- A pattern that was given on its own. -/
def patternOf (text : String) : Except BuildError Pattern :=
  match Pattern.ofText text with
  | .ok pattern => .ok pattern
  | .error reason => .error (.configuration (.invalidPattern text reason))

def ofTexts (test : String) (exclude : Option String) (loaders : List String) :
    Except BuildError Rule := do
  let test ← patternOf test
  let exclude ← exclude.mapM patternOf
  pure ⟨test, exclude, loaders⟩

/-- Whether a rule applies to a path, which is written with slashes. -/
def appliesTo (rule : Rule) (path : String) : Bool :=
  rule.test.matchesText path && !rule.exclude.any fun exclude => exclude.matchesText path

end Rule

/-- The configuration of a build. -/
structure Config where
  entries : Entries
  /-- The directory that entries and module identifiers start from. -/
  context : Option Path
  output : Output
  rules : List Rule
  /-- What is tried after a required path, in this order. -/
  extensions : List String
  plugins : List String

namespace Config

def defaultFileName : String :=
  "tinypack.config.json"

/-- The configuration that says nothing. -/
def default : Config :=
  ⟨.default, none, .default, [], [".js"], []⟩

def contextDirectory (config : Config) (workingDirectory : Path) : Path :=
  match config.context with
  | some context => (workingDirectory.join context).normalize
  | none => workingDirectory.normalize

def outputDirectory (config : Config) (context : Path) : Path :=
  (context.join config.output.directory).normalize

end Config

end ScriptBundle

namespace ScriptBundle.Config

open Json

def pathDecoder : Decoder Path := fun document =>
  (text "path string" document).map Path.mk

def textDecoder : Decoder String :=
  text "a string"

def textListDecoder : Decoder (List String) :=
  listOf textDecoder

def patternDecoder : Decoder Pattern :=
  checked textDecoder fun source => (Pattern.ofText source).mapError Pattern.PatternError.message

def optionalPatternDecoder : Decoder (Option Pattern) :=
  checked (optional textDecoder) fun source =>
    source.mapM fun source => (Pattern.ofText source).mapError Pattern.PatternError.message

def textOf? : Value → Option String
  | .text value => some value
  | _ => none

def textsOf? : Value → Option (List String)
  | .list items => items.mapM textOf?
  | _ => none

def textMembersOf? : Value → Option (List (String × String))
  | .record members => members.mapM fun member => (textOf? member.2).map (member.1, ·)
  | _ => none

/-- Entries: one path, or an object of paths. -/
def entriesDecoder : Decoder Entries :=
  anyOf "EntryConfig"
    [fun value => (textOf? value).map .single, fun value =>
      (textMembersOf? value).map fun pairs => .named (.ofPairs pairs)]

/-- The names of loaders: one name, or a list of names. -/
def loadersDecoder : Decoder (List String) :=
  anyOf "OneOrMany" [fun value => (textOf? value).map ([·]), textsOf?]

def outputDecoder : Decoder Output :=
  record "struct OutputConfig"
    [.withDefault "path" pathDecoder fun path output => { output with directory := path },
      .withDefault "filename" textDecoder fun name output => { output with filename := name },
      .withDefault "clean" flag fun clean output => { output with clean := clean }]
    .default

def ruleDecoder : Decoder Rule :=
  record "struct RuleConfig"
    [.mandatory "test" patternDecoder fun test rule => { rule with test := test },
      .withDefault "exclude" optionalPatternDecoder fun exclude rule =>
        { rule with exclude := exclude },
      .mandatory "use" loadersDecoder fun loaders rule => { rule with loaders := loaders }]
    ⟨⟨"", .empty⟩, none, []⟩

def rulesDecoder : Decoder (List Rule) :=
  record "struct ModuleConfig" [.withDefault "rules" (listOf ruleDecoder) fun rules _ => rules] []

def extensionsDecoder : Decoder (List String) :=
  record "struct ResolveConfig"
    [.withDefault "extensions" textListDecoder fun extensions _ => extensions]
    Config.default.extensions

/-- A configuration. -/
def decoder : Decoder Config :=
  record "struct BundleConfig"
    [.withDefault "entry" entriesDecoder fun entries config => { config with entries := entries },
      .withDefault "context" (optional pathDecoder) fun context config =>
        { config with context := context },
      .withDefault "output" outputDecoder fun output config => { config with output := output },
      .withDefault "module" rulesDecoder fun rules config => { config with rules := rules },
      .withDefault "resolve" extensionsDecoder fun extensions config =>
        { config with extensions := extensions },
      .withDefault "plugins" textListDecoder fun plugins config =>
        { config with plugins := plugins }]
    .default

/-- The configuration written as a text. -/
def ofText (source : String) : Except BuildError Config :=
  (decodeText decoder (documentOfText source)).mapError fun refusal =>
    .configuration (.malformed refusal)

/-- The configuration given by a value. -/
def ofValue (value : Value) : Except BuildError Config :=
  (decodeValue decoder value).mapError fun refusal => .configuration (.malformed refusal)

def ofFileText (path : Path) (source : String) : Except BuildError Config :=
  (decodeText decoder (documentOfText source)).mapError fun refusal =>
    .configuration (.malformedFile path refusal)

end ScriptBundle.Config
