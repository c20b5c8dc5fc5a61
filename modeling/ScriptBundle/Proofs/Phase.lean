import ScriptBundle.Proofs.Run

/-!
# Phases of a run

A run has two phases.  It prepares the bundles, which may fail in many ways
and only looks at files; then it publishes them, and all that can go wrong
there is that a file or directory cannot be changed, or that a tap of the last
hook fails.

So a run that fails for any other cause leaves the tree exactly as it was,
however far it came and whether or not the output was to be removed first.
-/

namespace ScriptBundle

/-- Whether an error is one that ends a run while bundles are published. -/
def BuildError.isLate : BuildError → Bool
  | .write _ _ => true
  | .hook .done _ _ => true
  | _ => false

/-- A tap that does nothing but note an event. -/
def Tap.Notes (tap : Tap) : Prop :=
  ∃ event, tap.action = Build.record event

namespace Taps

variable {taps : Taps} {hook : Hook} {tap : Tap}

/-- A tap that is attached to a hook is called last there. -/
theorem of_attach (taps : Taps) (hook other : Hook) (tap : Tap) :
    (taps.attach hook tap).of other =
      if other = hook then taps.of other ++ [tap] else taps.of other := by
  cases hook <;> cases other <;> rfl

/-- Taps each of which has a property. -/
def All (holds : Tap → Prop) (taps : Taps) : Prop :=
  ∀ hook, ∀ tap ∈ taps.of hook, holds tap

namespace All

variable {holds : Tap → Prop}

theorem none : All holds .none := by
  intro hook tap listed
  cases hook <;> cases listed

theorem attach (all : taps.All holds) (held : holds tap) (hook : Hook) :
    (taps.attach hook tap).All holds := by
  intro other member listed
  rw [of_attach] at listed
  split at listed
  · rcases List.mem_append.mp listed with earlier | last
    · exact all other member earlier
    · rw [List.mem_singleton.mp last]
      exact held
  · exact all other member listed

/-- A plugin attaches its taps and no others. -/
theorem attachTo {plugin : Plugin} (all : taps.All holds)
    (held : ∀ entry ∈ plugin.taps, holds entry.2) : (plugin.attachTo taps).All holds := by
  rw [Plugin.attachTo]
  generalize plugin.taps = entries at held
  induction entries generalizing taps with
  | nil => exact all
  | cons entry rest induction =>
      apply induction
      · exact all.attach (held entry List.mem_cons_self) entry.1
      · intro other listed
        exact held other (List.mem_cons_of_mem _ listed)

end All

/-- Taps that leave the tree as it is. -/
def KeepTree (taps : Taps) : Prop :=
  ∀ hook, ∀ tap ∈ taps.of hook, Action.KeepsTree tap.action

theorem keepTree_none : none.KeepTree :=
  All.none

theorem KeepTree.attachTo {plugin : Plugin} (keep : taps.KeepTree)
    (keeps : ∀ entry ∈ plugin.taps, Action.KeepsTree entry.2.action) :
    (plugin.attachTo taps).KeepTree := by
  have all : taps.All fun tap => Action.KeepsTree tap.action := keep
  exact all.attachTo keeps

/-- Taps that only note events leave the tree as it is. -/
theorem All.keepTree (notes : taps.All Tap.Notes) : taps.KeepTree := by
  intro hook tap listed
  rcases notes hook tap listed with ⟨event, shape⟩
  rw [shape]
  exact Action.KeepsFiles.keepsTree (.record event)

theorem callTap_keepsTree (keeps : Action.KeepsTree tap.action) (hook : Hook) :
    Action.KeepsTree (callTap hook tap) := by
  intro world
  have kept := keeps (world.record (.callingTap hook tap.name))
  rw [callTap]
  rcases ran : tap.action (world.record (.callingTap hook tap.name)) with ⟨_ | _, after⟩ <;>
    · rw [ran] at kept
      exact kept

theorem KeepTree.call (keep : taps.KeepTree) (hook : Hook) :
    Action.KeepsTree (taps.call hook) :=
  .forM fun tap listed => callTap_keepsTree (keep hook tap listed) hook

/-- A tap that fails fails its hook. -/
theorem call_failsBy (taps : Taps) (hook : Hook) :
    Action.FailsBy (fun error => ∃ name cause, error = .hook hook name cause) (taps.call hook) := by
  apply Action.FailsBy.forM
  intro tap _ world error after failed
  rw [callTap] at failed
  rcases ran : tap.action (world.record (.callingTap hook tap.name)) with ⟨cause | _, middle⟩
  · rw [ran] at failed
    cases failed
    exact ⟨tap.name, cause, rfl⟩
  · rw [ran] at failed
    cases failed

end Taps

/-- A computation over a list fails by one of its steps. -/
theorem exists_of_foldlM_error {Cause State Item : Type} {round : State → Item → Except Cause State}
    {items : List Item} {state : State} {cause : Cause}
    (failed : items.foldlM round state = .error cause) :
    ∃ reached, ∃ item ∈ items, round reached item = .error cause := by
  induction items generalizing state with
  | nil => cases failed
  | cons item rest induction =>
      rw [List.foldlM_cons] at failed
      cases first : round state item with
      | error other =>
          rw [first] at failed
          cases failed
          exact ⟨state, item, List.mem_cons_self, first⟩
      | ok next =>
          rw [first] at failed
          rcases induction failed with ⟨reached, other, listed, refused⟩
          exact ⟨reached, other, List.mem_cons_of_mem _ listed, refused⟩

namespace Pipeline

/-- A pipeline fails by one of its loaders. -/
theorem transform_error {pipeline : Pipeline} {path : Path} {source : String} {cause : BuildError}
    (failed : pipeline.transform path source = .error cause) :
    ∃ loader failure, cause = .transform loader path failure := by
  rcases exists_of_foldlM_error failed with ⟨text, loader, -, refused⟩
  cases ran : loader.transform text path with
  | error failure =>
      rw [ran] at refused
      cases refused
      exact ⟨loader.name, failure, rfl⟩
  | ok made =>
      rw [ran] at refused
      cases refused

end Pipeline

namespace Linker

/-- A call that names no file is what fails a module. -/
theorem gather_error {linker : Linker} {world : World} {directory : Path} {known : String → Bool}
    {specifiers : List String} {references : References} {cause : BuildError}
    (failed : linker.gather world directory known specifiers references = .error cause) :
    ∃ specifier, cause = .resolution specifier directory := by
  rcases exists_of_foldlM_error failed with ⟨reached, specifier, -, refused⟩
  cases found : linker.fileFor? world directory specifier with
  | none =>
      rw [found] at refused
      cases refused
      exact ⟨specifier, rfl⟩
  | some file =>
      rw [found] at refused
      cases refused

end Linker

/-- What keeps a module from being made is never about writing. -/
theorem ModuleBuilder.references_early {builder : ModuleBuilder} {world : World}
    {known : String → Bool} {path : Path} {cause : BuildError}
    (failed : builder.references world known path = .error cause) : cause.isLate = false := by
  rw [references, textOf] at failed
  cases read : world.tree.readText world.workingDirectory path with
  | error failure =>
      rw [read] at failed
      cases failed
      rfl
  | ok raw =>
      rw [read] at failed
      change (builder.pipeline.transform path raw >>= _) = _ at failed
      cases transformed : builder.pipeline.transform path raw with
      | error other =>
          rw [transformed] at failed
          cases failed
          rcases Pipeline.transform_error transformed with ⟨loader, failure, rfl⟩
          rfl
      | ok text =>
          rw [transformed] at failed
          simp only [bind, Except.bind] at failed
          split at failed
          · cases failed
            rfl
          · rcases Linker.gather_error failed with ⟨specifier, rfl⟩
            rfl

/-! ## Effects on files -/

namespace Build

/-- A directory that cannot be made is an error of writing. -/
theorem makeDirectories_failsBy (path : Path) :
    Action.FailsBy (fun error => ∃ cause, error = .write path cause) (makeDirectories path) := by
  intro world error after failed
  rw [makeDirectories, Action.bind_apply, Action.get_apply] at failed
  rcases made : world.tree.makeDirectories world.workingDirectory path with ⟨tree, cause | _⟩
  · simp only [made] at failed
    cases failed
    exact ⟨cause, rfl⟩
  · simp only [made] at failed
    cases failed

/-- A change of the tree at a path is made as a whole or not at all. -/
theorem change_apply (path : Path) (change : World → Except FileError FileTree) (world : World) :
    (do
      let world ← get
      match change world with
      | .ok tree => set { world with tree := tree }
      | .error cause => throw (.write path cause) : Build Unit) world =
      match change world with
      | .ok tree => (.ok (), { world with tree := tree })
      | .error cause => (.error (.write path cause), world) := by
  rw [Action.bind_apply, Action.get_apply]
  rcases told : change world with cause | tree
  · simp only [told]
    rfl
  · simp only [told]
    rfl

theorem writeFile_apply (path : Path) (text : String) (world : World) :
    writeFile path text world =
      match world.tree.writeFile world.workingDirectory path text.toUTF8 with
      | .ok tree => (.ok (), { world with tree := tree })
      | .error cause => (.error (.write path cause), world) :=
  change_apply path
    (fun world => world.tree.writeFile world.workingDirectory path text.toUTF8) world

theorem removeDirectory_apply (path : Path) (world : World) :
    removeDirectory path world =
      match world.tree.removeDirectory world.workingDirectory path with
      | .ok tree => (.ok (), { world with tree := tree })
      | .error cause => (.error (.write path cause), world) :=
  change_apply path (fun world => world.tree.removeDirectory world.workingDirectory path) world

/-- A change of the tree at a path fails by an error about this path. -/
theorem change_failsBy (path : Path) (change : World → Except FileError FileTree) :
    Action.FailsBy (fun error => ∃ cause, error = .write path cause) (do
      let world ← get
      match change world with
      | .ok tree => set { world with tree := tree }
      | .error cause => throw (.write path cause) : Build Unit) := by
  intro world error after failed
  rw [change_apply] at failed
  split at failed
  · cases failed
  · next cause _ =>
    cases failed
    exact ⟨cause, rfl⟩

theorem writeFile_failsBy (path : Path) (text : String) :
    Action.FailsBy (fun error => ∃ cause, error = .write path cause) (writeFile path text) :=
  change_failsBy path fun world => world.tree.writeFile world.workingDirectory path text.toUTF8

theorem removeDirectory_failsBy (path : Path) :
    Action.FailsBy (fun error => ∃ cause, error = .write path cause) (removeDirectory path) :=
  change_failsBy path fun world => world.tree.removeDirectory world.workingDirectory path

end Build

theorem Asset.write_failsBy (asset : Asset) :
    Action.FailsBy (fun error => error.isLate = true) asset.write := by
  have isLate {Result : Type} {path : Path} {action : Build Result}
      (fails : Action.FailsBy (fun error => ∃ cause, error = .write path cause) action) :
      Action.FailsBy (fun error => error.isLate = true) action := by
    intro world error after failed
    rcases fails world error after failed with ⟨cause, rfl⟩
    rfl
  have written : Action.FailsBy (fun error => error.isLate = true) (do
      Build.writeFile asset.path asset.text
      Build.record (.wrote asset.path)) := by
    apply Action.FailsBy.bind (isLate (Build.writeFile_failsBy asset.path asset.text))
    intro _ world error after failed
    cases failed
  rw [Asset.write]
  cases asset.path.parent with
  | none => exact written
  | some parent =>
      apply Action.FailsBy.bind (isLate (Build.makeDirectories_failsBy parent))
      intro _
      exact written

namespace Bundler

variable {bundler : Bundler} {world final : World}

/-- Build the modules of all entries, after the taps of the run hook. -/
def gather (bundler : Bundler) : Build (ModuleTable × List EntryPoint) := do
  bundler.guardCleaning
  bundler.taps.call .run
  bundler.buildModules

/-- Render the bundles of all entries, and ask the taps of the emit hook. -/
def prepare (bundler : Bundler) : Build (List Asset × ModuleTable) := do
  let (modules, points) ← bundler.gather
  let assets ← (modules.chunksOf points).foldlM bundler.addAsset []
  bundler.taps.call .emit
  pure (assets, modules)

/-- Write bundles to a directory that may be removed first. -/
def publish (bundler : Bundler) (assets : List Asset) : Build Unit := do
  bundler.clean
  assets.forM Asset.write
  bundler.taps.call .done

theorem run_eq (bundler : Bundler) :
    bundler.run = (do
      let (assets, modules) ← bundler.prepare
      bundler.publish assets
      pure ⟨assets, assets.map Asset.path, modules⟩) := by
  simp only [run, prepare, gather, publish, bind_assoc, pure_bind]

/-- A run that succeeds prepares its assets and publishes them. -/
theorem run_eq_ok {result : BuildResult} (succeeded : bundler.run world = (.ok result, final)) :
    ∃ middle, bundler.prepare world = (.ok (result.assets, result.modules), middle) ∧
      bundler.publish result.assets middle = (.ok (), final) := by
  rw [run_eq] at succeeded
  rcases Action.bind_ok succeeded with ⟨⟨assets, modules⟩, middle, prepared, rest⟩
  rcases Action.bind_ok rest with ⟨_, written, published, returned⟩
  cases returned
  exact ⟨middle, prepared, published⟩

theorem guardCleaning_keepsFiles (bundler : Bundler) : Action.KeepsFiles bundler.guardCleaning := by
  rw [guardCleaning]
  split
  · exact .throw _
  · exact .pure _

theorem buildEntry_keepsFiles (bundler : Bundler) (progress : BuildState × List EntryPoint)
    (entry : String × String) : Action.KeepsFiles (bundler.buildEntry progress entry) := by
  intro world
  rcases bundler.moduleBuilder.visits_build progress.1 entry.1 (bundler.entryPath entry.2) world
    with ⟨later, result, left, visit, called⟩
  rw [buildEntry, called]
  cases result <;> exact visit.sameFiles

theorem buildModules_keepsFiles (bundler : Bundler) : Action.KeepsFiles bundler.buildModules :=
  .bind (.foldlM bundler.buildEntry_keepsFiles _ _) fun _ => .pure _

theorem addAsset_keepsFiles (bundler : Bundler) (assets : List Asset) (chunk : Chunk) :
    Action.KeepsFiles (bundler.addAsset assets chunk) := by
  rw [addAsset]
  split
  · exact .throw _
  · exact .bind (.record _) fun _ => .pure _

theorem gather_keepsTree (quiet : bundler.taps.KeepTree) : Action.KeepsTree bundler.gather := by
  apply Action.KeepsTree.bind bundler.guardCleaning_keepsFiles.keepsTree
  intro _
  apply Action.KeepsTree.bind (quiet.call .run)
  intro _
  exact bundler.buildModules_keepsFiles.keepsTree

theorem prepare_keepsTree (quiet : bundler.taps.KeepTree) : Action.KeepsTree bundler.prepare := by
  apply Action.KeepsTree.bind (gather_keepsTree quiet)
  rintro ⟨modules, points⟩
  apply Action.KeepsTree.bind
  · exact Action.KeepsFiles.keepsTree (.foldlM bundler.addAsset_keepsFiles _ _)
  · intro assets
    apply Action.KeepsTree.bind (quiet.call .emit)
    intro _ _
    rfl

theorem buildEntry_failsBy (bundler : Bundler) (progress : BuildState × List EntryPoint)
    (entry : String × String) :
    Action.FailsBy (fun error => error.isLate = false) (bundler.buildEntry progress entry) := by
  intro world error after failed
  rcases bundler.moduleBuilder.visits_build progress.1 entry.1 (bundler.entryPath entry.2) world
    with ⟨later, result, left, visit, called⟩
  rw [buildEntry, called] at failed
  cases result with
  | ok _ => cases failed
  | error cause =>
      cases failed
      rcases visit.refused rfl with ⟨path, reading, -, -, refused⟩
      exact ModuleBuilder.references_early (ModuleBuilder.references_of_make refused)

theorem gather_failsBy (bundler : Bundler) :
    Action.FailsBy (fun error => error.isLate = false) bundler.gather := by
  have guarded : Action.FailsBy (fun error => error.isLate = false) bundler.guardCleaning := by
    intro world error after failed
    rw [guardCleaning] at failed
    split at failed
    · cases failed
      rfl
    · cases failed
  apply guarded.bind
  intro _
  apply Action.FailsBy.bind
  · intro world error after failed
    rcases bundler.taps.call_failsBy .run world error after failed with ⟨name, cause, rfl⟩
    rfl
  · intro _
    apply Action.FailsBy.bind (.foldlM bundler.buildEntry_failsBy _ _)
    intro _ world error after failed
    cases failed

/-- Preparing never fails late. -/
theorem prepare_failsBy (bundler : Bundler) :
    Action.FailsBy (fun error => error.isLate = false) bundler.prepare := by
  have added (assets : List Asset) (chunk : Chunk) :
      Action.FailsBy (fun error => error.isLate = false) (bundler.addAsset assets chunk) := by
    intro world error after failed
    rw [addAsset] at failed
    split at failed
    · cases failed
      rfl
    · cases failed
  apply bundler.gather_failsBy.bind
  rintro ⟨modules, points⟩
  apply Action.FailsBy.bind (.foldlM added _ _)
  intro assets
  apply Action.FailsBy.bind
  · intro world error after failed
    rcases bundler.taps.call_failsBy .emit world error after failed with ⟨name, cause, rfl⟩
    rfl
  · intro _ world error after failed
    cases failed

/-! ## Publishing fails late -/

theorem clean_failsBy (bundler : Bundler) :
    Action.FailsBy (fun error => error.isLate = true) bundler.clean := by
  intro world error after failed
  rw [clean] at failed
  split at failed
  · rcases Action.bind_error failed with asked | ⟨there, middle, -, later⟩
    · cases asked
    · split at later
      · rcases Action.bind_error later with noted | ⟨_, noted, -, removed⟩
        · cases noted
        · rcases Build.removeDirectory_failsBy _ _ _ _ removed with ⟨cause, rfl⟩
          rfl
      · cases later
  · cases failed

theorem publish_failsBy (bundler : Bundler) (assets : List Asset) :
    Action.FailsBy (fun error => error.isLate = true) (bundler.publish assets) := by
  apply Action.FailsBy.bind bundler.clean_failsBy
  intro _
  apply Action.FailsBy.bind
  · exact .forM fun asset _ => asset.write_failsBy
  · intro _ world error after failed
    rcases bundler.taps.call_failsBy .done world error after failed with ⟨name, cause, rfl⟩
    rfl

/-- A run that fails otherwise than late fails while it prepares. -/
theorem prepare_of_run_error {cause : BuildError}
    (failed : bundler.run world = (.error cause, final)) (early : cause.isLate = false) :
    bundler.prepare world = (.error cause, final) := by
  rw [run_eq] at failed
  rcases Action.bind_error failed with prepared | ⟨⟨assets, modules⟩, middle, -, published⟩
  · exact prepared
  · rcases Action.bind_error published with late | ⟨_, written, -, returned⟩
    · have isLate : cause.isLate = true :=
        bundler.publish_failsBy assets middle cause final late
      rw [early] at isLate
      cases isLate
    · cases returned

theorem applyPlugins_keepsFiles (plugins : List Plugin) (taps : Taps) :
    Action.KeepsFiles (applyPlugins plugins taps) := by
  apply Action.KeepsFiles.foldlM
  intro attached plugin
  exact .bind (.record _) fun _ => .pure _

/-- Describing a build changes no file, whether it succeeds or not. -/
theorem ofConfig_keepsFiles (registry : LoaderRegistry) (config : Config) :
    Action.KeepsFiles (ofConfig registry config) := by
  have lifted {Result : Type} (result : Except BuildError Result) :
      Action.KeepsFiles (liftM result : Build Result) := by
    cases result with
    | ok value => exact .pure value
    | error cause => exact .throw cause
  apply Action.KeepsFiles.bind .get
  intro world
  apply Action.KeepsFiles.bind (lifted _)
  intro pipeline
  apply Action.KeepsFiles.bind (lifted _)
  intro plugins
  apply Action.KeepsFiles.bind (applyPlugins_keepsFiles plugins .none)
  intro taps
  exact .pure _

/-- The taps of a plugin that has a name only note events. -/
theorem notes_of_named {name : String} {plugin : Plugin} (named : Plugin.named name = .ok plugin) :
    ∀ entry ∈ plugin.taps, entry.2.Notes := by
  rw [Plugin.named] at named
  split at named
  · cases named
    intro entry listed
    rcases List.mem_map.mp listed with ⟨hook, -, rfl⟩
    exact ⟨.announced hook, rfl⟩
  · cases named

theorem applyPlugins_all {holds : Tap → Prop} {plugins : List Plugin} {taps attached : Taps}
    (held : ∀ plugin ∈ plugins, ∀ entry ∈ plugin.taps, holds entry.2) (all : taps.All holds)
    (applied : applyPlugins plugins taps world = (.ok attached, final)) : attached.All holds := by
  induction plugins generalizing taps world with
  | nil =>
      cases applied
      exact all
  | cons plugin rest induction =>
      rw [applyPlugins, List.foldlM_cons] at applied
      rcases Action.bind_ok applied with ⟨next, middle, first, later⟩
      cases first
      apply induction _ (all.attachTo (held plugin List.mem_cons_self)) later
      intro other listed
      exact held other (List.mem_cons_of_mem _ listed)

theorem exists_named {names : List String} {plugins : List Plugin}
    (named : names.mapM Plugin.named = .ok plugins) :
    ∀ plugin ∈ plugins, ∃ name, Plugin.named name = .ok plugin := by
  induction names generalizing plugins with
  | nil =>
      cases named
      intro plugin listed
      cases listed
  | cons name rest induction =>
      rw [List.mapM_cons] at named
      cases first : Plugin.named name with
      | error cause =>
          rw [first] at named
          cases named
      | ok found =>
          cases later : rest.mapM Plugin.named with
          | error cause =>
              rw [first, later] at named
              cases named
          | ok others =>
              rw [first, later] at named
              cases named
              intro plugin listed
              rcases List.mem_cons.mp listed with rfl | deeper
              · exact ⟨name, first⟩
              · exact induction later plugin deeper

/-- The taps of a described build, all of which its plugins brought, only note
events. -/
theorem taps_ofConfig {registry : LoaderRegistry} {config : Config}
    (described : ofConfig registry config world = (.ok bundler, final)) :
    bundler.taps.All Tap.Notes := by
  rw [ofConfig] at described
  rcases Action.bind_ok described with ⟨start, reading, -, afterStart⟩
  rcases Action.bind_ok afterStart with ⟨pipeline, linking, -, afterPipeline⟩
  rcases Action.bind_ok afterPipeline with ⟨plugins, naming, named, afterPlugins⟩
  rcases Action.bind_ok afterPlugins with ⟨taps, attaching, applied, returned⟩
  cases returned
  refine applyPlugins_all ?_ .none applied
  intro plugin listed
  have all : config.plugins.mapM Plugin.named = .ok plugins := by
    cases told : config.plugins.mapM Plugin.named with
    | error cause =>
        rw [told] at named
        cases named
    | ok others =>
        rw [told] at named
        cases named
        rfl
  rcases exists_named all plugin listed with ⟨name, found⟩
  exact notes_of_named found

/-- The taps of a described run keep the tree. -/
theorem keepTree_ofConfig {registry : LoaderRegistry} {config : Config}
    (described : ofConfig registry config world = (.ok bundler, final)) :
    bundler.taps.KeepTree :=
  (taps_ofConfig described).keepTree

/-- A build whose taps are those of one more plugin besides its own. -/
def withPlugin (bundler : Bundler) (plugin : Plugin) : Bundler :=
  { bundler with taps := plugin.attachTo bundler.taps }

/-- Describing a build changes no file.  A run of the build, with any more taps
that change no tree, leaves the tree exactly as it was if it fails with an
error that is not late. -/
theorem failed_build_keepsTree (registry : LoaderRegistry) (config : Config) (world : World)
    (more : Plugin) (quiet : ∀ entry ∈ more.taps, Action.KeepsTree entry.2.action) :
    (ofConfig registry config world).2.tree = world.tree ∧
      ∀ described begun, ofConfig registry config world = (.ok described, begun) →
        ∀ start cause final, (described.withPlugin more).run start = (.error cause, final) →
          cause.isLate = false → final.tree = start.tree := by
  constructor
  · exact (ofConfig_keepsFiles registry config world).tree
  · intro described begun configured start cause final failed early
    have keep : (described.withPlugin more).taps.KeepTree :=
      (keepTree_ofConfig configured).attachTo quiet
    have kept := prepare_keepsTree keep start
    rw [prepare_of_run_error failed early] at kept
    exact kept

/-- Two entries, the second of which requires a text that is no script, and the
output of an earlier build. -/
def staleWorld : World where
  tree := ⟨[(["work"], .directory),
    (["work", "a.js"], .file "exports.v = 1;".toUTF8),
    (["work", "b.js"], .file "require('./c');".toUTF8),
    (["work", "c.js"], .file "const = ;".toUTF8),
    (["work", "dist"], .directory),
    (["work", "dist", "old.js"], .file "1;".toUTF8)]⟩
  workingDirectory := ["work"]
  journal := []

/-- A configuration that has the output removed first. -/
def cleaningConfig : Config :=
  { Config.default with
    entries := .named (.ofPairs [("first", "./a.js"), ("second", "./b.js")])
    output := { Output.default with clean := true }
    plugins := ["logging"] }

def noting : Plugin :=
  ⟨"noting", [(.run, ⟨"noting", Build.record (.noted "started")⟩)]⟩

/-- The first entry is built when the second fails, and the old output is still
there. -/
theorem failed_build_keepsTree_stale :
    (∀ entry ∈ noting.taps, Action.KeepsTree entry.2.action) ∧
      ∃ described begun final,
        ofConfig .default cleaningConfig staleWorld = (.ok described, begun) ∧
          (described.withPlugin noting).run begun = (.error (.parse ⟨"/work/c.js"⟩), final) ∧
          final.tree = begun.tree := by
  have quiet : ∀ entry ∈ noting.taps, Action.KeepsTree entry.2.action := by
    intro entry listed
    rw [List.mem_singleton.mp listed]
    exact Action.KeepsFiles.keepsTree (.record _)
  refine ⟨quiet, ?_⟩
  have evaluated :
      ((ofConfig .default cleaningConfig >>= fun described =>
        (described.withPlugin noting).run) staleWorld).1.map (fun _ => ()) =
          .error (.parse ⟨"/work/c.js"⟩) := by
    decide +kernel
  rw [Action.bind_apply] at evaluated
  rcases configured : ofConfig .default cleaningConfig staleWorld with ⟨cause | described, begun⟩
  · cases configured
  · rw [configured] at evaluated
    rcases ran : (described.withPlugin noting).run begun with ⟨cause | result, final⟩
    · simp only [ran, Except.map, Except.error.injEq] at evaluated
      subst evaluated
      exact ⟨described, begun, final, rfl, ran,
        (failed_build_keepsTree .default cleaningConfig staleWorld noting quiet).2 described begun
          configured begun _ final ran rfl⟩
    · simp only [ran, Except.map] at evaluated
      cases evaluated

end Bundler

end ScriptBundle
