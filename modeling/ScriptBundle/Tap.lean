import ScriptBundle.World
import ScriptBundle.Unicode.Property

/-!
# Taps

A tap is an action that another party attaches to a hook.  The taps of a hook
are called in the order in which they were attached, and the first that fails
ends the call.  A plugin is a named group of taps.
-/

namespace ScriptBundle

/-- A named action attached to a hook. -/
structure Tap where
  name : String
  action : Action Failure Unit

/-- The taps of every hook, in the order in which they were attached. -/
structure Taps where
  run : List Tap
  emit : List Tap
  done : List Tap

namespace Taps

def none : Taps :=
  ⟨[], [], []⟩

def of (taps : Taps) : Hook → List Tap
  | .run => taps.run
  | .emit => taps.emit
  | .done => taps.done

def attach (taps : Taps) (hook : Hook) (tap : Tap) : Taps :=
  match hook with
  | .run => { taps with run := taps.run ++ [tap] }
  | .emit => { taps with emit := taps.emit ++ [tap] }
  | .done => { taps with done := taps.done ++ [tap] }

def names (taps : Taps) (hook : Hook) : List String :=
  (taps.of hook).map Tap.name

def callTap (hook : Hook) (tap : Tap) : Build Unit := fun world =>
  match tap.action (world.record (.callingTap hook tap.name)) with
  | (.ok (), after) => (.ok (), after)
  | (.error cause, after) => (.error (.hook hook tap.name cause), after)

def call (taps : Taps) (hook : Hook) : Build Unit :=
  (taps.of hook).forM (callTap hook)

/-- The names of all taps by hook, as text. -/
def text (taps : Taps) : String :=
  "\x7b" ++ ", ".intercalate (Hook.all.map fun hook =>
    Quoted.quote hook.name ++ ": " ++ Quoted.quoteList (taps.names hook)) ++ "\x7d"

end Taps

/-- A named group of taps. -/
structure Plugin where
  name : String
  taps : List (Hook × Tap)

namespace Plugin

/-- The plugin that announces every hook to the user. -/
def logging : Plugin :=
  ⟨"logging", Hook.all.map fun hook => (hook, ⟨"logging", Build.record (.announced hook)⟩)⟩

def named (name : String) : Except BuildError Plugin :=
  if name = logging.name then .ok logging else .error (.configuration (.unknownPlugin name))

def attachTo (plugin : Plugin) (taps : Taps) : Taps :=
  plugin.taps.foldl (fun attached entry => attached.attach entry.1 entry.2) taps

def apply (plugin : Plugin) (taps : Taps) : Build Taps := do
  Build.record (.applyingPlugin plugin.name)
  pure (plugin.attachTo taps)

end Plugin

end ScriptBundle
