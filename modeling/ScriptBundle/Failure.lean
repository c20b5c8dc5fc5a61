import ScriptBundle.FileTree
import ScriptBundle.Json.Decode
import ScriptBundle.Pattern.Reader

/-!
# Hooks and failures

Other parties are called at a few points of a build, its hooks.

Whatever ends a build early is one of a few causes, each with the facts that
explain it.  A cause may rest on deeper ones; the whole chain is kept, from
the outermost explanation inwards.
-/

namespace ScriptBundle

/-- A point of a build at which taps are called. -/
inductive Hook where
  /-- Before anything is read. -/
  | run
  /-- When all assets are rendered and none is written. -/
  | emit
  /-- When every asset is written. -/
  | done
deriving DecidableEq, Repr

namespace Hook

/-- All hooks in the order in which a build reaches them. -/
def all : List Hook :=
  [.run, .emit, .done]

def name : Hook → String
  | .run => "run"
  | .emit => "emit"
  | .done => "done"

def ofName? (name : String) : Option Hook :=
  all.find? fun hook => hook.name = name

theorem ofName?_eq_some_iff {name : String} {hook : Hook} :
    ofName? name = some hook ↔ hook.name = name := by
  constructor
  · intro found
    simpa using List.find?_some found
  · rintro rfl
    cases hook <;> rfl

end Hook

/-- A failure of a loader or a tap: an explanation and the causes behind it,
outermost first. -/
structure Failure where
  message : String
  causes : List String
deriving DecidableEq, Repr, Inhabited

namespace Failure

/-- A failure without deeper causes. -/
def ofMessage (message : String) : Failure :=
  ⟨message, []⟩

/-- A failure explained by what was being done. -/
def within (failure : Failure) (context : String) : Failure :=
  ⟨context, failure.message :: failure.causes⟩

/-- All explanations, outermost first. -/
def chain (failure : Failure) : List String :=
  failure.message :: failure.causes

end Failure

/-- What is wrong with a configuration. -/
inductive Misconfiguration where
  | malformed (refusal : Json.Refusal)
  | malformedFile (path : Path) (refusal : Json.Refusal)
  | invalidPattern (pattern : String) (reason : Pattern.PatternError)
  | unknownLoader (name : String)
  | unknownPlugin (name : String)
  | cleanHoldsContext (output context : Path)
  | sharedAsset (path : Path)
deriving DecidableEq, Repr

def Misconfiguration.message : Misconfiguration → String
  | .malformed refusal => refusal.message
  | .malformedFile path refusal => path.text ++ ": " ++ refusal.message
  | .invalidPattern pattern reason => "invalid pattern '" ++ pattern ++ "': " ++ reason.message
  | .unknownLoader name => "unknown loader '" ++ name ++ "'"
  | .unknownPlugin name => "unknown plugin '" ++ name ++ "'"
  | .cleanHoldsContext output context =>
    "output.clean would remove " ++ output.text ++ ", which contains the context " ++ context.text
  | .sharedAsset path => "multiple entries emit to the same file " ++ path.text

/-- What ends a build. -/
inductive BuildError where
  | resolution (specifier : String) (directory : Path)
  | read (path : Path) (cause : FileError)
  | transform (loader : String) (path : Path) (cause : Failure)
  | parse (path : Path)
  | hook (point : Hook) (tap : String) (cause : Failure)
  | configuration (cause : Misconfiguration)
  | write (path : Path) (cause : FileError)
deriving DecidableEq, Repr

namespace BuildError

/-- How an error is worded.  What is wrong with the text of a script is left
to the reader of the message. -/
def message : BuildError → String
  | .resolution specifier directory =>
    "Module not found: Cannot resolve '" ++ specifier ++ "' in '" ++ Path.slashed directory.text ++
      "'"
  | .read path _ => "Failed to read " ++ path.text
  | .transform loader path cause =>
    "Loader '" ++ loader ++ "' failed on " ++ path.text ++ ": " ++ cause.message
  | .parse path => "Parse error in " ++ path.text
  | .hook point tap cause =>
    "Plugin '" ++ tap ++ "' failed in the " ++ point.name ++ " hook: " ++ cause.message
  | .configuration cause => "Invalid configuration: " ++ cause.message
  | .write path _ => "Failed to write " ++ path.text

/-- The causes behind an error, outermost first. -/
def causes : BuildError → List String
  | .read _ cause => [cause.message]
  | .write _ cause => [cause.message]
  | .transform _ _ cause => cause.chain
  | .hook _ _ cause => cause.chain
  | .resolution _ _ => []
  | .parse _ => []
  | .configuration _ => []

def toFailure (error : BuildError) : Failure :=
  ⟨error.message, error.causes⟩

end BuildError

end ScriptBundle
