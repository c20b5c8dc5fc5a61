import ScriptBundle.Proofs.Effect
import ScriptBundle.Proofs.Overwriting

/-!
# The course of a run

A run calls the taps of the run hook, reads the sources, calls the taps of the
emit hook, removes the output directory if it is told to, writes the bundles in
the order of the entries, and calls the taps of the done hook.  It ends with the
first step that fails, and with the failure of that step.  Here all the ways in
which a run can end are listed, each with everything that was done before.
-/

namespace ScriptBundle

namespace Bundler

variable {bundler : Bundler} {world final : World} {outcome : Except BuildError BuildResult}
  {effects : List Effect}

/-- The effects of a run up to the emit hook. -/
def preparation (bundler : Bundler) (modules : ModuleTable) : List Effect :=
  Taps.callsOf .run bundler.taps.run ++ ModuleBuilder.readings modules.modules ++
    Taps.callsOf .emit bundler.taps.emit

/-- The removal of the output directory of a tree, if it is to be removed. -/
def removal (bundler : Bundler) (tree : FileTree) : List Effect :=
  if bundler.removes tree then [.remove bundler.outputDirectory] else []

/-- The ways in which a run that starts in a world can end, with its effects. -/
inductive Course (bundler : Bundler) (world : World) :
    List Effect → Except BuildError BuildResult → Prop where
  /-- The guard refuses to have the output directory removed. -/
  | refused {cause : BuildError} (guard : bundler.guardCleaning world = (.error cause, world)) :
      Course bundler world [] (.error cause)
  /-- A tap of the run hook fails. -/
  | beforeRun {called : List Tap} {cause : BuildError}
      (guarded : bundler.guardCleaning world = (.ok (), world))
      (stops : bundler.taps.Stops .run world called cause) :
      Course bundler world (Taps.callsOf .run called) (.error cause)
  /-- Some modules are made, and the next cannot be: its file cannot be read, a
  loader fails, its text is no script, or a specifier leads nowhere. -/
  | unmade {begun final : World} {made : List Module} {path : Path} {known : String → Bool}
      {cause : BuildError} (guarded : bundler.guardCleaning world = (.ok (), world))
      (called : bundler.taps.call .run world = (.ok (), begun))
      (failed : bundler.buildModules begun = (.error cause, final))
      (built : ∀ member ∈ made, bundler.moduleBuilder.Built begun member)
      (refused : bundler.moduleBuilder.references begun known path = .error cause) :
      Course bundler world (Taps.callsOf .run bundler.taps.run ++
        (ModuleBuilder.readings made ++ [.read path])) (.error cause)
  /-- Two bundles have the same path. -/
  | clashing {gathered final : World} {modules : ModuleTable} {points : List EntryPoint}
      {cause : BuildError}
      (built : bundler.gather world = (.ok (modules, points), gathered))
      (clash : (modules.chunksOf points).foldlM bundler.addAsset [] gathered =
        (.error cause, final)) :
      Course bundler world (Taps.callsOf .run bundler.taps.run ++
        ModuleBuilder.readings modules.modules) (.error cause)
  /-- A tap of the emit hook fails. -/
  | beforeEmit {gathered shown : World} {modules : ModuleTable} {points : List EntryPoint}
      {assets : List Asset} {called : List Tap} {cause : BuildError}
      (built : bundler.gather world = (.ok (modules, points), gathered))
      (rendered : (modules.chunksOf points).foldlM bundler.addAsset [] gathered =
        (.ok assets, shown))
      (stops : bundler.taps.Stops .emit shown called cause) :
      Course bundler world (Taps.callsOf .run bundler.taps.run ++
        ModuleBuilder.readings modules.modules ++ Taps.callsOf .emit called) (.error cause)
  /-- The output directory cannot be removed. -/
  | kept {ready final : World} {assets : List Asset} {modules : ModuleTable} {cause : BuildError}
      (prepared : bundler.prepare world = (.ok (assets, modules), ready))
      (failed : bundler.clean ready = (.error cause, final)) :
      Course bundler world (bundler.preparation modules ++ [.remove bundler.outputDirectory])
        (.error cause)
  /-- A bundle cannot be written. -/
  | unwritten {ready emptied filled final : World} {written rest : List Asset} {asset : Asset}
      {modules : ModuleTable} {cause : BuildError}
      (prepared : bundler.prepare world = (.ok (written ++ asset :: rest, modules), ready))
      (cleaned : bundler.clean ready = (.ok (), emptied))
      (before : written.forM Asset.write emptied = (.ok (), filled))
      (failed : asset.write filled = (.error cause, final)) :
      Course bundler world (bundler.preparation modules ++
        (bundler.removal ready.tree ++ Asset.writings written)) (.error cause)
  /-- A tap of the done hook fails. -/
  | beforeDone {ready emptied filled : World} {assets : List Asset} {modules : ModuleTable}
      {called : List Tap} {cause : BuildError}
      (prepared : bundler.prepare world = (.ok (assets, modules), ready))
      (cleaned : bundler.clean ready = (.ok (), emptied))
      (wrote : assets.forM Asset.write emptied = (.ok (), filled))
      (stops : bundler.taps.Stops .done filled called cause) :
      Course bundler world (bundler.preparation modules ++
        (bundler.removal ready.tree ++ Asset.writings assets ++ Taps.callsOf .done called))
        (.error cause)
  | finished {ready emptied filled final : World} {assets : List Asset} {modules : ModuleTable}
      (prepared : bundler.prepare world = (.ok (assets, modules), ready))
      (cleaned : bundler.clean ready = (.ok (), emptied))
      (wrote : assets.forM Asset.write emptied = (.ok (), filled))
      (called : bundler.taps.call .done filled = (.ok (), final)) :
      Course bundler world (bundler.preparation modules ++
        (bundler.removal ready.tree ++ Asset.writings assets ++
          Taps.callsOf .done bundler.taps.done)) (.ok ⟨assets, assets.map Asset.path, modules⟩)

/-! ## Courses of runs -/

theorem addAsset_inquires (bundler : Bundler) (assets : List Asset) (chunk : Chunk) :
    Action.Inquires [] (bundler.addAsset assets chunk) := by
  rw [addAsset]
  split
  · exact .throw _
  · exact .after_record rfl (.pure _)

theorem addAssets_shows (bundler : Bundler) (chunks : List Chunk) (world : World) :
    world.Shows (chunks.foldlM bundler.addAsset [] world).2 [] :=
  (Action.Inquires.foldlM bundler.addAsset_inquires chunks []).shows world

theorem guardCleaning_apply (bundler : Bundler) (world : World) :
    bundler.guardCleaning world = ((bundler.guardCleaning world).1, world) := by
  rw [guardCleaning]
  split <;> rfl

/-- A run that fails before its modules are built. -/
theorem gather_error {cause : BuildError} (discreet : bundler.taps.Discreet)
    (failed : bundler.gather world = (.error cause, final)) :
    ∃ effects, world.Shows final effects ∧ bundler.Course world effects (.error cause) := by
  rcases Action.bind_error failed with refused | ⟨_, begun, guarded, later⟩
  · have same := bundler.guardCleaning_apply world
    rw [refused] at same
    cases same
    exact ⟨[], .refl _, .refused refused⟩
  · have same := guardCleaning_ok guarded
    subst same
    rcases Action.bind_error later with refused | ⟨_, tapped, called, building⟩
    · rcases discreet.call_error refused with ⟨called, stops, shown⟩
      exact ⟨_, shown, .beforeRun guarded stops⟩
    · rcases bundler.buildModules_told tapped with ⟨events, made, told, shows, -⟩
      have noted := told.after
      rw [building] at noted shows
      rcases shows.effects_eq with ⟨path, known, refused, read⟩
      refine ⟨_, (discreet.call_ok called).trans ⟨events, congrArg World.journal noted, read⟩, ?_⟩
      exact .unmade guarded called building shows.built refused

theorem gather_shows {modules : ModuleTable} {points : List EntryPoint}
    (discreet : bundler.taps.Discreet)
    (gathered : bundler.gather world = (.ok (modules, points), final)) :
    world.Shows final (Taps.callsOf .run bundler.taps.run ++
      ModuleBuilder.readings modules.modules) := by
  rcases Action.bind_ok gathered with ⟨_, begun, guarded, later⟩
  rw [guardCleaning_ok guarded] at later
  rcases Action.bind_ok later with ⟨_, tapped, called, building⟩
  rcases bundler.buildModules_told tapped with ⟨events, made, told, shows, all⟩
  have noted := told.after
  rw [building] at noted shows all
  have read := shows.effects_eq
  rw [← all modules points rfl] at read
  exact (discreet.call_ok called).trans ⟨events, congrArg World.journal noted, read⟩

/-- A run that fails before its bundles are prepared. -/
theorem prepare_error {cause : BuildError} (discreet : bundler.taps.Discreet)
    (failed : bundler.prepare world = (.error cause, final)) :
    ∃ effects, world.Shows final effects ∧ bundler.Course world effects (.error cause) := by
  rcases Action.bind_error failed with refused | ⟨⟨modules, points⟩, gathered, built, later⟩
  · exact gather_error discreet refused
  · have read := gather_shows discreet built
    have silent := bundler.addAssets_shows (modules.chunksOf points) gathered
    rcases Action.bind_error later with clash | ⟨assets, shown, rendered, asked⟩
    · rw [clash] at silent
      have whole := read.trans silent
      rw [List.append_nil] at whole
      exact ⟨_, whole, .clashing built clash⟩
    · rw [rendered] at silent
      rcases Action.bind_error asked with refused | ⟨_, _, -, returned⟩
      · rcases discreet.call_error refused with ⟨called, stops, calling⟩
        have whole := (read.trans silent).trans calling
        rw [List.append_nil] at whole
        exact ⟨_, whole, .beforeEmit built rendered stops⟩
      · cases returned

theorem prepare_shows {assets : List Asset} {modules : ModuleTable}
    (discreet : bundler.taps.Discreet)
    (prepared : bundler.prepare world = (.ok (assets, modules), final)) :
    world.Shows final (bundler.preparation modules) := by
  rcases Action.bind_ok prepared with ⟨⟨table, points⟩, gathered, built, later⟩
  rcases Action.bind_ok later with ⟨rendered, shown, rendering, asked⟩
  rcases Action.bind_ok asked with ⟨_, agreed, called, returned⟩
  cases returned
  have silent := bundler.addAssets_shows (modules.chunksOf points) gathered
  rw [rendering] at silent
  have whole := ((gather_shows discreet built).trans silent).trans (discreet.call_ok called)
  rwa [List.append_nil] at whole

/-- A removal is noted before it is tried. -/
theorem clean_shows (rooted : bundler.Rooted) (world : World) :
    world.Shows (bundler.clean world).2 (bundler.removal world.tree) := by
  rw [clean_apply rooted, removal]
  split
  · have silent := World.shows_of_journal_eq (Build.removeDirectory_journal
      bundler.outputDirectory (world.record (.cleaning bundler.outputDirectory)))
    exact (world.shows_record (.cleaning bundler.outputDirectory)).trans silent
  · exact .refl world

/-- A removal that fails was to be made. -/
theorem removes_of_clean_error {cause : BuildError} (rooted : bundler.Rooted)
    (failed : bundler.clean world = (.error cause, final)) :
    bundler.removes world.tree = true := by
  rw [clean_apply rooted] at failed
  split at failed
  · next removes => exact removes
  · cases failed

/-- A run that has prepared its bundles publishes them in one of the listed
ways. -/
theorem publish_course {ready : World} {assets : List Asset} {modules : ModuleTable}
    {result : Except BuildError Unit} (rooted : bundler.Rooted) (discreet : bundler.taps.Discreet)
    (prepared : bundler.prepare world = (.ok (assets, modules), ready))
    (published : bundler.publish assets ready = (result, final)) :
    ∃ effects, world.Shows final effects ∧ bundler.Course world effects
      (result.map fun _ => ⟨assets, assets.map Asset.path, modules⟩) := by
  have shown := prepare_shows discreet prepared
  have clearing := clean_shows rooted ready
  cases result with
  | error cause =>
      rcases Action.bind_error published with failed | ⟨_, emptied, cleaned, later⟩
      · rw [failed, removal, if_pos (removes_of_clean_error rooted failed)] at clearing
        exact ⟨_, shown.trans clearing, .kept prepared failed⟩
      · rw [cleaned] at clearing
        rcases Action.bind_error later with failed | ⟨_, filled, wrote, called⟩
        · rcases Action.forM_error failed with ⟨written, asset, rest, filled, rfl, before, refused⟩
          have stopped := asset.write_shows filled
          rw [refused] at stopped
          have whole := shown.trans ((clearing.trans (Asset.writeAll_shows before)).trans stopped)
          rw [List.append_nil] at whole
          exact ⟨_, whole, .unwritten prepared cleaned before refused⟩
        · rcases discreet.call_error called with ⟨called, stops, calling⟩
          exact ⟨_, shown.trans ((clearing.trans (Asset.writeAll_shows wrote)).trans calling),
            .beforeDone prepared cleaned wrote stops⟩
  | ok _ =>
      rcases Action.bind_ok published with ⟨_, emptied, cleaned, later⟩
      rw [cleaned] at clearing
      rcases Action.bind_ok later with ⟨_, filled, wrote, called⟩
      exact ⟨_, shown.trans ((clearing.trans (Asset.writeAll_shows wrote)).trans
        (discreet.call_ok called)), .finished prepared cleaned wrote called⟩

/-- Every run ends in one of the listed ways, and shows the effects of it. -/
theorem exists_course (rooted : bundler.Rooted) (discreet : bundler.taps.Discreet)
    (ran : bundler.run world = (outcome, final)) :
    ∃ effects, world.Shows final effects ∧ bundler.Course world effects outcome := by
  rw [run_eq, Action.bind_apply] at ran
  rcases prepared : bundler.prepare world with ⟨cause | ⟨assets, modules⟩, ready⟩
  · rw [prepared] at ran
    cases ran
    exact prepare_error discreet prepared
  · rw [prepared] at ran
    dsimp only at ran
    rw [Action.bind_apply] at ran
    rcases published : bundler.publish assets ready with ⟨result, last⟩
    have course := publish_course rooted discreet prepared published
    rw [published] at ran
    cases result <;>
      · cases ran
        exact course

/-! ## The order of effects -/

/-- All effects of a run that reads some sources and does not fail, in order. -/
def plan (bundler : Bundler) (sources : List Path) (removed : Bool) : List Effect :=
  Taps.callsOf .run bundler.taps.run ++ (sources.map .read ++
    (Taps.callsOf .emit bundler.taps.emit ++
      ((if removed then [.remove bundler.outputDirectory] else []) ++
        (bundler.assetPaths.map .write ++ Taps.callsOf .done bundler.taps.done))))

theorem plan_eq_preparation (bundler : Bundler) (modules : ModuleTable) (removed : Bool) :
    bundler.plan (modules.modules.map Module.path) removed =
      bundler.preparation modules ++
        ((if removed then [.remove bundler.outputDirectory] else []) ++
          (bundler.assetPaths.map .write ++ Taps.callsOf .done bundler.taps.done)) := by
  simp [plan, preparation, ModuleBuilder.readings, Function.comp_def]

theorem writings_eq (assets : List Asset) :
    Asset.writings assets = (assets.map Asset.path).map .write := by
  simp [Asset.writings, Function.comp_def]

/-- However a run ends, its effects are the first of a plan. -/
theorem Course.planned (rooted : bundler.Rooted) (course : bundler.Course world effects outcome) :
    ∃ sources removed, (removed = true → bundler.config.output.clean = true) ∧
      effects <+: bundler.plan sources removed := by
  have never : false = true → bundler.config.output.clean = true :=
    fun impossible => absurd impossible Bool.false_ne_true
  cases course with
  | refused => exact ⟨[], false, never, List.nil_prefix⟩
  | beforeRun _ stops =>
      refine ⟨[], false, never, ?_⟩
      exact (stops.called_prefix.map _).trans (List.prefix_append _ _)
  | @unmade _ _ made path =>
      refine ⟨made.map Module.path ++ [path], false, never, ?_⟩
      apply (List.prefix_append_right_inj _).mpr
      have read : ModuleBuilder.readings made ++ [.read path] =
          (made.map Module.path ++ [path]).map .read := by
        simp [ModuleBuilder.readings, Function.comp_def]
      rw [read]
      exact List.prefix_append _ _
  | @clashing _ _ modules =>
      refine ⟨modules.modules.map Module.path, false, never, ?_⟩
      rw [plan_eq_preparation, preparation, List.append_assoc]
      exact List.prefix_append _ _
  | @beforeEmit _ _ modules _ _ _ _ _ _ stops =>
      refine ⟨modules.modules.map Module.path, false, never, ?_⟩
      rw [plan_eq_preparation, preparation]
      refine List.IsPrefix.trans ?_ (List.prefix_append _ _)
      apply (List.prefix_append_right_inj _).mpr
      exact stops.called_prefix.map _
  | @kept _ _ _ modules _ prepared failed =>
      refine ⟨modules.modules.map Module.path, true, ?_, ?_⟩
      · intro _
        exact clean_of_removes (removes_of_clean_error rooted failed)
      · rw [plan_eq_preparation]
        apply (List.prefix_append_right_inj _).mpr
        exact List.prefix_append _ _
  | @unwritten ready _ _ _ written rest asset modules _ prepared =>
      refine ⟨modules.modules.map Module.path, bundler.removes ready.tree, clean_of_removes, ?_⟩
      rw [plan_eq_preparation, ← (prepare_ok prepared).1, List.map_append, List.map_append,
        ← writings_eq, List.append_assoc]
      apply (List.prefix_append_right_inj _).mpr
      apply (List.prefix_append_right_inj _).mpr
      exact List.prefix_append _ _
  | @beforeDone ready _ _ _ modules _ _ prepared _ _ stops =>
      refine ⟨modules.modules.map Module.path, bundler.removes ready.tree, clean_of_removes, ?_⟩
      rw [plan_eq_preparation, ← (prepare_ok prepared).1, ← writings_eq, List.append_assoc]
      apply (List.prefix_append_right_inj _).mpr
      apply (List.prefix_append_right_inj _).mpr
      apply (List.prefix_append_right_inj _).mpr
      exact stops.called_prefix.map _
  | @finished ready _ _ _ _ modules prepared =>
      refine ⟨modules.modules.map Module.path, bundler.removes ready.tree, clean_of_removes, ?_⟩
      rw [plan_eq_preparation, ← (prepare_ok prepared).1, ← writings_eq, List.append_assoc]
      exact List.prefix_rfl

/-- The name of the tap of a hook that an effect calls. -/
def tap? (hook : Hook) : Effect → Option String
  | .call other name => if other = hook then some name else none
  | _ => none

/-- A plan calls every tap once, in the order in which they were attached. -/
theorem filterMap_tap?_plan (bundler : Bundler) (hook : Hook) (sources : List Path)
    (removed : Bool) :
    (bundler.plan sources removed).filterMap (tap? hook) = bundler.taps.names hook := by
  have calls (other : Hook) (called : List Tap) :
      (Taps.callsOf other called).filterMap (tap? hook) =
        if other = hook then called.map Tap.name else [] := by
    rw [Taps.callsOf, List.filterMap_map]
    by_cases same : other = hook
    · subst same
      simp [Function.comp_def, tap?]
    · simp [Function.comp_def, tap?, same]
  have others : (if removed then [Effect.remove bundler.outputDirectory] else []).filterMap
      (tap? hook) = [] := by
    cases removed <;> rfl
  simp only [plan, List.filterMap_append, calls, others, List.filterMap_map, Function.comp_def,
    tap?, List.filterMap_none]
  cases hook <;> simp [Taps.names, Taps.of]

/-- The bundles of a run are rendered without a clash, from the modules of all
entries. -/
def Renders (bundler : Bundler) (world : World) : Prop :=
  ∃ modules points gathered assets shown,
    bundler.gather world = (.ok (modules, points), gathered) ∧
      (modules.chunksOf points).foldlM bundler.addAsset [] gathered = (.ok assets, shown)

/-- The bundles of a run are rendered, and no tap of the emit hook fails. -/
def Prepares (bundler : Bundler) (world : World) : Prop :=
  ∃ prepared ready, bundler.prepare world = (.ok prepared, ready)

theorem Prepares.renders (prepares : bundler.Prepares world) : bundler.Renders world := by
  rcases prepares with ⟨prepared, ready, succeeded⟩
  rcases Action.bind_ok succeeded with ⟨⟨modules, points⟩, gathered, built, later⟩
  rcases Action.bind_ok later with ⟨assets, shown, rendered, -⟩
  exact ⟨modules, points, gathered, assets, shown, built, rendered⟩

/-- An effect comes after the bundles are prepared. -/
def isLate : Effect → Bool
  | .remove _ => true
  | .write _ => true
  | .call .done _ => true
  | _ => false

theorem Course.renders (course : bundler.Course world effects outcome) {tap : String}
    (called : .call .emit tap ∈ effects) : bundler.Renders world := by
  cases course with
  | refused => cases called
  | beforeRun => simp at called
  | unmade => simp [ModuleBuilder.readings] at called
  | clashing => simp [ModuleBuilder.readings] at called
  | beforeEmit built rendered => exact ⟨_, _, _, _, _, built, rendered⟩
  | kept prepared => exact Prepares.renders ⟨_, _, prepared⟩
  | unwritten prepared => exact Prepares.renders ⟨_, _, prepared⟩
  | beforeDone prepared => exact Prepares.renders ⟨_, _, prepared⟩
  | finished prepared => exact Prepares.renders ⟨_, _, prepared⟩

theorem Course.prepares (course : bundler.Course world effects outcome) {effect : Effect}
    (listed : effect ∈ effects) (late : isLate effect = true) : bundler.Prepares world := by
  have early (noneLate : effects.any isLate = false) : bundler.Prepares world := by
    rw [List.any_eq_true.mpr ⟨effect, listed, late⟩] at noneLate
    cases noneLate
  cases course with
  | refused => exact early rfl
  | beforeRun => exact early (by simp [Taps.callsOf, isLate])
  | unmade => exact early (by simp [Taps.callsOf, ModuleBuilder.readings, isLate])
  | clashing => exact early (by simp [Taps.callsOf, ModuleBuilder.readings, isLate])
  | beforeEmit => exact early (by simp [Taps.callsOf, ModuleBuilder.readings, isLate])
  | kept prepared => exact ⟨_, _, prepared⟩
  | unwritten prepared => exact ⟨_, _, prepared⟩
  | beforeDone prepared => exact ⟨_, _, prepared⟩
  | finished prepared => exact ⟨_, _, prepared⟩

/-- Before a tap of the done hook is called every bundle was written. -/
theorem Course.writes (course : bundler.Course world effects outcome) {tap : String}
    (called : .call .done tap ∈ effects) :
    (∀ path ∈ bundler.assetPaths, .write path ∈ effects) ∧
      ∃ ready emptied filled assets modules,
        bundler.prepare world = (.ok (assets, modules), ready) ∧
          bundler.clean ready = (.ok (), emptied) ∧
          assets.forM Asset.write emptied = (.ok (), filled) := by
  have all {assets : List Asset} {modules : ModuleTable} {ready : World}
      (prepared : bundler.prepare world = (.ok (assets, modules), ready)) {path : Path}
      (listed : path ∈ bundler.assetPaths) : .write path ∈ Asset.writings assets := by
    rw [← (prepare_ok prepared).1] at listed
    rw [writings_eq]
    exact List.mem_map_of_mem listed
  cases course with
  | refused => cases called
  | beforeRun => simp at called
  | unmade => simp [ModuleBuilder.readings] at called
  | clashing => simp [ModuleBuilder.readings] at called
  | beforeEmit => simp [ModuleBuilder.readings] at called
  | kept => simp [preparation, ModuleBuilder.readings] at called
  | @unwritten ready =>
      cases removed : bundler.removes ready.tree <;>
        simp [preparation, removal, removed, ModuleBuilder.readings] at called
  | beforeDone prepared cleaned wrote =>
      refine ⟨?_, _, _, _, _, _, prepared, cleaned, wrote⟩
      intro path listed
      simp [all prepared listed]
  | finished prepared cleaned wrote =>
      refine ⟨?_, _, _, _, _, _, prepared, cleaned, wrote⟩
      intro path listed
      simp [all prepared listed]

/-- A run that has written its bundles ends where the taps of the done hook leave
it. -/
theorem run_of_written {ready emptied filled : World} {assets : List Asset}
    {modules : ModuleTable} (prepared : bundler.prepare world = (.ok (assets, modules), ready))
    (cleaned : bundler.clean ready = (.ok (), emptied))
    (wrote : assets.forM Asset.write emptied = (.ok (), filled))
    (ran : bundler.run world = (outcome, final)) :
    (bundler.taps.call .done filled).2 = final := by
  have published : bundler.publish assets ready = bundler.taps.call .done filled := by
    rw [publish, Action.bind_apply, cleaned]
    dsimp only
    rw [Action.bind_apply, wrote]
  rw [run_eq, Action.bind_apply, prepared] at ran
  dsimp only at ran
  rw [Action.bind_apply, published] at ran
  rcases called : bundler.taps.call .done filled with ⟨cause | _, last⟩
  · rw [called] at ran
    exact congrArg Prod.snd ran
  · rw [called] at ran
    exact congrArg Prod.snd ran

/-- What holds of the effects of a run, however it ends. -/
structure InOrder (bundler : Bundler) (world final : World) (effects : List Effect) : Prop where
  planned : ∃ sources removed, (removed = true → bundler.config.output.clean = true) ∧
    effects <+: bundler.plan sources removed
  /-- The taps of a hook that are called are the first, each once. -/
  once : ∀ hook, effects.filterMap (tap? hook) <+: bundler.taps.names hook
  emit : ∀ tap, .call .emit tap ∈ effects → bundler.Renders world
  late : ∀ effect ∈ effects, isLate effect = true → bundler.Prepares world
  done : ∀ tap, .call .done tap ∈ effects → ∀ path ∈ bundler.assetPaths, .write path ∈ effects
  /-- The taps of the done hook are called in a world whose files hold all
  bundles, and the run ends where they leave it. -/
  held : ∀ tap, .call .done tap ∈ effects → ∃ ready assets modules filled,
    bundler.prepare world = (.ok (assets, modules), ready) ∧
      Asset.AllHeld assets filled.tree ∧ (bundler.taps.call .done filled).2 = final
  /-- A run that the guard refuses does nothing. -/
  refused : ∀ cause, bundler.guardCleaning world = (.error cause, world) →
    effects = [] ∧ final = world
  /-- No file is touched before the bundles are prepared, unless a tap does. -/
  kept : bundler.taps.KeepTree → ¬ bundler.Prepares world → final.tree = world.tree

/-- The effects of a run of any configuration, with any taps that have no effects
of their own and may fail at any call, come in order.  It ends in one of the
listed ways: with the first step that fails and its failure, or with all
steps. -/
theorem run_inOrder {registry : LoaderRegistry} {config : Config} {origin begun : World}
    {described : Bundler} (configured : ofConfig registry config origin = (.ok described, begun))
    (taps : Taps) (discreet : taps.Discreet)
    (ran : run { described with taps := taps } world = (outcome, final)) :
    let bundler : Bundler := { described with taps := taps }
    ∃ effects, world.Shows final effects ∧ bundler.Course world effects outcome ∧
      bundler.InOrder world final effects := by
  have rooted := (rooted_ofConfig configured).withTaps taps
  intro bundler
  rcases exists_course rooted discreet ran with ⟨effects, shown, course⟩
  refine ⟨effects, shown, course, ?_⟩
  rcases course.planned rooted with ⟨sources, removed, asked, first⟩
  constructor
  · exact ⟨sources, removed, asked, first⟩
  · intro hook
    rw [← bundler.filterMap_tap?_plan hook sources removed]
    exact first.filterMap _
  · intro tap called
    exact course.renders called
  · intro effect listed late
    exact course.prepares listed late
  · intro tap called
    exact (course.writes called).1
  · intro tap called
    rcases (course.writes called).2 with
      ⟨ready, emptied, filled, assets, modules, prepared, cleaned, wrote⟩
    have absolute := isAbsolute_of_prepare rooted prepared
    exact ⟨ready, assets, modules, filled, prepared, Asset.writeAll_held absolute wrote,
      run_of_written prepared cleaned wrote ran⟩
  · intro cause refused
    rw [run_of_guardCleaning refused] at ran
    cases ran
    rcases shown with ⟨events, noted, rfl⟩
    rw [List.self_eq_append_right] at noted
    rw [noted]
    exact ⟨rfl, rfl⟩
  · intro quiet unprepared
    have kept := prepare_keepsTree quiet world
    rw [run_eq, Action.bind_apply] at ran
    rcases prepared : bundler.prepare world with ⟨cause | ready, middle⟩
    · rw [prepared] at ran kept
      cases ran
      exact kept
    · exact absurd ⟨ready, middle, prepared⟩ unprepared

/-- A module that requires another, and the output of an earlier build. -/
def rebuiltWorld : World where
  tree := ⟨[(["work"], .directory),
    (["work", "a.js"], .file "require('./b');".toUTF8),
    (["work", "b.js"], .file "exports.v = 2;".toUTF8),
    (["work", "dist"], .directory),
    (["work", "dist", "old.js"], .file "1;".toUTF8)]⟩
  workingDirectory := ["work"]
  journal := []

def rebuildConfig : Config :=
  { Config.default with
    entries := .single "./a.js"
    output := { Output.default with clean := true } }

def rebuildBundler : Bundler :=
  ⟨rebuildConfig, rebuildConfig.contextDirectory rebuiltWorld.workingPath, ⟨[]⟩, .none⟩

theorem ofConfig_rebuild :
    ofConfig .empty rebuildConfig rebuiltWorld = (.ok rebuildBundler, rebuiltWorld) :=
  rfl

def notingTap : Tap :=
  ⟨"noting", Build.record (.noted "called")⟩

def failingTap : Tap :=
  ⟨"failing", throw (.ofMessage "no")⟩

/-- A tap of the emit hook fails, between two that do not. -/
def failingTaps : Taps :=
  ⟨[notingTap], [notingTap, failingTap, notingTap], [notingTap]⟩

theorem failingTaps_discreet : failingTaps.Discreet := by
  have noting : notingTap.Discreet := fun world => world.shows_record (.noted "called")
  have failing : failingTap.Discreet := fun world => .refl world
  intro hook
  cases hook <;> simp [Taps.of, failingTaps, noting, failing]

/-- The sources are read between the taps of the two hooks; the second tap of the
emit hook fails, and nothing comes after it. -/
theorem run_inOrder_failing :
    let bundler : Bundler := { rebuildBundler with taps := failingTaps }
    ∃ final effects, bundler.run rebuiltWorld =
        (.error (.hook .emit "failing" (.ofMessage "no")), final) ∧
      effects = [.call .run "noting", .read ⟨"/work/a.js"⟩, .read ⟨"/work/b.js"⟩,
        .call .emit "noting", .call .emit "failing"] ∧
      rebuiltWorld.Shows final effects ∧
      bundler.Course rebuiltWorld effects (.error (.hook .emit "failing" (.ofMessage "no"))) ∧
      bundler.InOrder rebuiltWorld final effects := by
  intro bundler
  have fails : (bundler.run rebuiltWorld).1.map (fun _ => ()) =
      .error (.hook .emit "failing" (.ofMessage "no")) := by
    decide +kernel
  have shows : effectsOf (bundler.run rebuiltWorld).2.journal =
      [.call .run "noting", .read ⟨"/work/a.js"⟩, .read ⟨"/work/b.js"⟩,
        .call .emit "noting", .call .emit "failing"] := by
    decide +kernel
  rcases ran : bundler.run rebuiltWorld with ⟨cause | result, final⟩
  · rw [ran] at fails shows
    cases fails
    rcases run_inOrder ofConfig_rebuild failingTaps failingTaps_discreet ran with
      ⟨effects, shown, course, inOrder⟩
    refine ⟨final, effects, rfl, ?_, shown, course, inOrder⟩
    rcases shown with ⟨events, noted, rfl⟩
    rw [← shows, noted]
    rfl
  · rw [ran] at fails
    cases fails

end Bundler

end ScriptBundle
