import ScriptBundle.Chunk
import ScriptBundle.Config
import ScriptBundle.ModuleBuilder
import ScriptBundle.Tap

/-!
# Bundling

A run builds the modules of all entries, renders one bundle for each, and
writes the bundles.  Nothing is removed or written before every bundle is
rendered and the taps of the emit hook have agreed.

A directory that holds the sources is never removed, and two entries never
share one bundle: both are refused as misconfigurations.
-/

namespace ScriptBundle

/-- A bundle, and the file it goes to. -/
structure Asset where
  chunk : Chunk
  path : Path
  text : String
deriving DecidableEq, Repr

namespace Asset

def write (asset : Asset) : Build Unit := do
  if let some parent := asset.path.parent then
    Build.makeDirectories parent
  Build.writeFile asset.path asset.text
  Build.record (.wrote asset.path)

end Asset

/-- What a run leaves behind. -/
structure BuildResult where
  /-- The bundles in the order of their entries. -/
  assets : List Asset
  /-- The files that were written, in order. -/
  files : List Path
  /-- All modules in the order in which they were built. -/
  modules : ModuleTable
deriving DecidableEq, Repr

/-- A build that is ready to run. -/
structure Bundler where
  config : Config
  /-- The directory that entries and identifiers start from. -/
  context : Path
  pipeline : Pipeline
  taps : Taps

namespace Bundler

def applyPlugins (plugins : List Plugin) (taps : Taps) : Build Taps :=
  plugins.foldlM (fun attached plugin => plugin.apply attached) taps

/-- The build that a configuration describes, whose rules may name the loaders
of a registry. -/
def ofConfig (registry : LoaderRegistry) (config : Config) : Build Bundler := do
  let world ← get
  let context := config.contextDirectory world.workingPath
  let pipeline ← (Pipeline.ofRules registry config.rules : Except BuildError Pipeline)
  let plugins ← (config.plugins.mapM Plugin.named : Except BuildError (List Plugin))
  let taps ← applyPlugins plugins .none
  pure ⟨config, context, pipeline, taps⟩

def outputDirectory (bundler : Bundler) : Path :=
  bundler.config.outputDirectory bundler.context

/-- Refuse to remove a directory that holds the sources. -/
def guardCleaning (bundler : Bundler) : Build Unit :=
  if bundler.config.output.clean && bundler.context.startsWith bundler.outputDirectory then
    throw (.configuration (.cleanHoldsContext bundler.outputDirectory bundler.context))
  else
    pure ()

def moduleBuilder (bundler : Bundler) : ModuleBuilder :=
  ⟨bundler.pipeline, ⟨bundler.context, bundler.config.extensions⟩⟩

def entryPath (bundler : Bundler) (path : String) : Path :=
  (bundler.context.join ⟨path⟩).normalize

/-- Build the modules of an entry, after those of the entries in `progress`. -/
def buildEntry (bundler : Bundler) (progress : BuildState × List EntryPoint)
    (entry : String × String) : Build (BuildState × List EntryPoint) := fun world =>
  match bundler.moduleBuilder.build progress.1 entry.1 (bundler.entryPath entry.2) world with
  | ((state, .ok first), after) =>
    let point := first.map fun first => EntryPoint.mk entry.1 first.id
    (.ok (state, progress.2 ++ point.toList), after)
  | ((_, .error error), after) => (.error error, after)

/-- Build the modules of all entries, and tell which modules the entries lead
to. -/
def buildModules (bundler : Bundler) : Build (ModuleTable × List EntryPoint) := do
  let (state, points) ← bundler.config.entries.toList.foldlM bundler.buildEntry (.start, [])
  pure (state.modules, points)

/-- Render the bundle of a chunk, unless it goes to the file of an earlier
one. -/
def addAsset (bundler : Bundler) (assets : List Asset) (chunk : Chunk) :
    Build (List Asset) := do
  let path := bundler.outputDirectory.join ⟨bundler.config.output.bundleName chunk.name⟩
  if assets.any fun asset => asset.path.sameSteps path then
    throw (.configuration (.sharedAsset path))
  else
    Build.record (.rendering chunk.name chunk.modules.length path)
    pure (assets ++ [⟨chunk, path, chunk.bundle⟩])

/-- Remove the output directory, if the configuration asks for it. -/
def clean (bundler : Bundler) : Build Unit := do
  if bundler.config.output.clean then
    if ← Build.pathExists bundler.outputDirectory then
      Build.record (.cleaning bundler.outputDirectory)
      Build.removeDirectory bundler.outputDirectory

def run (bundler : Bundler) : Build BuildResult := do
  bundler.guardCleaning
  bundler.taps.call .run
  let (modules, points) ← bundler.buildModules
  let assets ← (modules.chunksOf points).foldlM bundler.addAsset []
  bundler.taps.call .emit
  bundler.clean
  assets.forM Asset.write
  bundler.taps.call .done
  pure ⟨assets, assets.map Asset.path, modules⟩

end Bundler

end ScriptBundle
