import ScriptBundle.Bundler
import ScriptBundle.Proofs.DepthFirst

/-!
# Runs that succeed

A run that succeeds has built the modules of every entry, and rendered one
bundle for every chunk.  What holds of the modules is carried from entry to
entry: everything required is there, and every module was found from the entry
whose name it bears.
-/

namespace ScriptBundle

namespace Entries

theorem nodup_names (entries : Entries) : (entries.toList.map Prod.fst).Nodup := by
  cases entries with
  | single path => simp [toList]
  | named paths => exact paths.distinct

end Entries

namespace Bundler

variable {bundler : Bundler} {world final : World} {done : List (String × String)}
  {entry : String × String} {progress next : BuildState × List EntryPoint}

/-- The name of an entry with the identifier of the file it names. -/
def pointOf (bundler : Bundler) (entry : String × String) : EntryPoint :=
  ⟨entry.1, bundler.moduleBuilder.idOf (bundler.entryPath entry.2)⟩

/-- What holds after the modules of some entries were built in the files of a
world. -/
structure Progress (bundler : Bundler) (world : World) (done : List (String × String))
    (progress : BuildState × List EntryPoint) : Prop where
  settled : progress.1.Settled
  satisfied : ∀ member ∈ progress.1.modules.modules,
    ModuleBuilder.Satisfied progress.1.modules member
  built : ∀ member ∈ progress.1.modules.modules, bundler.moduleBuilder.Built world member
  found : ∀ member ∈ progress.1.modules.modules, ∃ entry ∈ done,
    member.owner = entry.1 ∧ progress.1.modules.Leads (bundler.entryPath entry.2) member.path
  contained : ∀ entry ∈ done, progress.1.modules.contains (bundler.pointOf entry).id = true
  points : progress.2 = done.map bundler.pointOf

/-- Entries are sources that are visited one after the other. -/
theorem progress_iff_joint :
    bundler.Progress world done progress ↔
      bundler.moduleBuilder.Joint world Prod.fst (fun entry => bundler.entryPath entry.2) done
          progress.1 ∧
        progress.2 = done.map bundler.pointOf := by
  constructor
  · rintro ⟨settled, satisfied, built, found, contained, points⟩
    exact ⟨⟨settled, satisfied, built, found, contained⟩, points⟩
  · rintro ⟨⟨settled, satisfied, built, found, contained⟩, points⟩
    exact ⟨settled, satisfied, built, found, contained, points⟩

theorem progress_start (bundler : Bundler) (world : World) :
    bundler.Progress world [] (.start, []) :=
  progress_iff_joint.mpr ⟨ModuleBuilder.joint_start _ world _ _, rfl⟩

/-- Building an entry visits its path, and tells its point. -/
theorem buildEntry_ok (settled : progress.1.Settled)
    (succeeded : bundler.buildEntry progress entry world = (.ok next, final)) :
    bundler.moduleBuilder.Visits entry.1 [bundler.entryPath entry.2] progress.1 world
        next.1 (.ok ()) final ∧
      next.2 = progress.2 ++ [bundler.pointOf entry] := by
  rcases
      bundler.moduleBuilder.visits_build progress.1 entry.1 (bundler.entryPath entry.2) world with
      ⟨later, result, left, visit, called⟩
  rw [buildEntry, called] at succeeded
  cases result with
  | error cause => cases succeeded
  | ok visited =>
      rcases ModuleBuilder.exists_entry settled visit with ⟨first, found⟩
      simp only [Except.map, found] at succeeded
      cases succeeded
      refine ⟨visit, ?_⟩
      simp [pointOf, (ModuleTable.get?_eq_some found).2]

/-- What holds after some entries holds after one more. -/
theorem Progress.buildEntry {start : World} (before : bundler.Progress start done progress)
    (same : world.SameFiles start)
    (succeeded : bundler.buildEntry progress entry world = (.ok next, final)) :
    bundler.Progress start (done ++ [entry]) next ∧ final.SameFiles start := by
  rcases buildEntry_ok before.settled succeeded with ⟨visit, points⟩
  rcases progress_iff_joint.mp before with ⟨joint, earlier⟩
  refine ⟨progress_iff_joint.mpr ⟨joint.visit visit same, ?_⟩, visit.sameFiles.trans same⟩
  rw [points, earlier, List.map_append, List.map_singleton]

theorem Progress.foldlM {start : World} {more : List (String × String)}
    (before : bundler.Progress start done progress) (same : world.SameFiles start)
    (succeeded : more.foldlM bundler.buildEntry progress world = (.ok next, final)) :
    bundler.Progress start (done ++ more) next ∧ final.SameFiles start := by
  induction more generalizing done progress world with
  | nil =>
      cases succeeded
      exact ⟨by simpa using before, same⟩
  | cons entry rest induction =>
      rw [List.foldlM_cons] at succeeded
      rcases Action.bind_ok succeeded with ⟨reached, middle, first, later⟩
      rcases before.buildEntry same first with ⟨progressed, middleSame⟩
      have finished := induction progressed middleSame later
      rwa [List.append_assoc, List.singleton_append] at finished

theorem buildModules_ok {modules : ModuleTable} {points : List EntryPoint}
    (succeeded : bundler.buildModules world = (.ok (modules, points), final)) :
    ∃ state : BuildState, state.modules = modules ∧
      bundler.Progress world bundler.config.entries.toList (state, points) := by
  rcases Action.bind_ok succeeded with ⟨⟨state, told⟩, middle, folded, returned⟩
  cases returned
  exact ⟨state, rfl, ((progress_start bundler world).foldlM (.refl world) folded).1⟩

/-- Every chunk has its bundle, in the order of the chunks. -/
theorem addAssets_ok {chunks : List Chunk} {assets rendered : List Asset}
    (succeeded : chunks.foldlM bundler.addAsset assets world = (.ok rendered, final)) :
    ∃ added, rendered = assets ++ added ∧ added.map Asset.chunk = chunks ∧
      ∀ asset ∈ added, asset.text = asset.chunk.bundle := by
  induction chunks generalizing assets world with
  | nil =>
      cases succeeded
      exact ⟨[], by simp, rfl, by simp⟩
  | cons chunk rest induction =>
      rw [List.foldlM_cons] at succeeded
      rcases Action.bind_ok succeeded with ⟨extended, middle, first, later⟩
      have one : ∃ asset : Asset, extended = assets ++ [asset] ∧ asset.chunk = chunk ∧
          asset.text = chunk.bundle := by
        rw [addAsset] at first
        split at first
        · cases first
        · rcases Action.bind_ok first with ⟨noted, after, -, returned⟩
          cases returned
          exact ⟨_, rfl, rfl, rfl⟩
      rcases one with ⟨asset, rfl, rfl, text⟩
      rcases induction later with ⟨added, rfl, rfl, texts⟩
      refine ⟨asset :: added, by simp, by simp, fun other listed => ?_⟩
      rcases List.mem_cons.mp listed with rfl | deeper
      · exact text
      · exact texts other deeper

theorem guardCleaning_ok (succeeded : bundler.guardCleaning world = (.ok (), final)) :
    final = world := by
  rw [guardCleaning] at succeeded
  split at succeeded
  · cases succeeded
  · cases succeeded
    rfl

/-- A run that the guard refuses does nothing. -/
theorem run_of_guardCleaning {cause : BuildError}
    (refused : bundler.guardCleaning world = (.error cause, world)) :
    bundler.run world = (.error cause, world) := by
  have failed : (bundler.guardCleaning world).1 = .error cause := by
    rw [refused]
  rw [run, Action.bind_of_error failed, refused]

/-- The world in which a run builds modules: the one that the taps of the run
hook leave. -/
def buildWorld (bundler : Bundler) (world : World) : World :=
  (bundler.taps.call .run world).2

/-- A run that succeeds has built its modules and rendered their chunks. -/
theorem run_ok {result : BuildResult} (succeeded : bundler.run world = (.ok result, final)) :
    ∃ state : BuildState, state.modules = result.modules ∧
      bundler.Progress (bundler.buildWorld world) bundler.config.entries.toList
        (state, bundler.config.entries.toList.map bundler.pointOf) ∧
      result.assets.map Asset.chunk =
        result.modules.chunksOf (bundler.config.entries.toList.map bundler.pointOf) ∧
      ∀ asset ∈ result.assets, asset.text = asset.chunk.bundle := by
  rw [run] at succeeded
  rcases Action.bind_ok succeeded with ⟨_, begun, guard, guarded⟩
  rcases Action.bind_ok guarded with ⟨_, tapped, taps, called⟩
  rcases Action.bind_ok called with ⟨⟨modules, points⟩, built, building, made⟩
  rcases Action.bind_ok made with ⟨assets, rendered, rendering, shown⟩
  rcases Action.bind_ok shown with ⟨_, agreed, -, emitted⟩
  rcases Action.bind_ok emitted with ⟨_, emptied, -, cleaned⟩
  rcases Action.bind_ok cleaned with ⟨_, filled, -, written⟩
  rcases Action.bind_ok written with ⟨_, ended, -, returned⟩
  cases returned
  rw [guardCleaning_ok guard] at taps
  rcases buildModules_ok building with ⟨state, rfl, progress⟩
  rcases addAssets_ok rendering with ⟨added, rfl, chunks, texts⟩
  have world_eq : bundler.buildWorld world = tapped := congrArg Prod.snd taps
  have points_eq : points = bundler.config.entries.toList.map bundler.pointOf := progress.points
  rw [world_eq]
  rw [points_eq] at progress chunks
  exact ⟨state, rfl, progress, by simpa using chunks, by simpa using texts⟩

end Bundler

end ScriptBundle
