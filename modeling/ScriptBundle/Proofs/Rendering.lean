import ScriptBundle.Proofs.Identity
import ScriptBundle.Proofs.Phase
import ScriptBundle.Proofs.SelfContained

/-!
# Rendering

One bundle is rendered for each entry, at a path that is told by the name of the
entry.  The path is absolute, since the output directory is.  Bundles whose
paths have the same steps are refused before anything is written.

A chunk is made only of an entry whose module is found in the table, and a
bundle is added only at a path that no earlier bundle has.  So that no entry is
lost rests on two things: the identifier of every entry is in the table when all
entries are built, also where building one did nothing, because its module was
built for an earlier entry; and a run that succeeds has never met the same path
twice.
-/

namespace ScriptBundle

namespace Bundler

variable {bundler : Bundler} {world final : World}

/-- The path of the bundle of an entry. -/
def assetPath (bundler : Bundler) (name : String) : Path :=
  bundler.outputDirectory.join ⟨bundler.config.output.bundleName name⟩

/-- The bundle of a chunk. -/
def assetOf (bundler : Bundler) (chunk : Chunk) : Asset :=
  ⟨chunk, bundler.assetPath chunk.name, chunk.bundle⟩

theorem Rooted.isAbsolute_outputDirectory (rooted : bundler.Rooted) :
    bundler.outputDirectory.isAbsolute = true := by
  rw [outputDirectory, Config.outputDirectory, Path.isAbsolute_normalize]
  exact Path.isAbsolute_join rooted.absolute _

theorem Rooted.isAbsolute_assetPath (rooted : bundler.Rooted) (name : String) :
    (bundler.assetPath name).isAbsolute = true :=
  Path.isAbsolute_join rooted.isAbsolute_outputDirectory _

/-- The paths of the bundles of all entries. -/
def assetPaths (bundler : Bundler) : List Path :=
  bundler.config.entries.toList.map fun entry => bundler.assetPath entry.1

/-- A bundle is added unless its path has the steps of an earlier one. -/
theorem addAsset_apply (bundler : Bundler) (assets : List Asset) (chunk : Chunk) (world : World) :
    bundler.addAsset assets chunk world =
      if assets.any fun asset => asset.path.sameSteps (bundler.assetPath chunk.name) then
        (.error (.configuration (.sharedAsset (bundler.assetPath chunk.name))), world)
      else
        (.ok (assets ++ [bundler.assetOf chunk]),
          world.record (.rendering chunk.name chunk.modules.length
            (bundler.assetPath chunk.name))) := by
  change (if assets.any fun asset => asset.path.sameSteps (bundler.assetPath chunk.name) then _
    else _ : Build (List Asset)) world = _
  split
  · rfl
  · rfl

/-- Bundles are added to bundles exactly if no two of all their paths have the
same steps, and else the path that is refused is named. -/
theorem addAssets_apply (bundler : Bundler) (chunks : List Chunk) {assets : List Asset}
    (distinct : ((assets.map Asset.path).map Path.components).Nodup) (world : World) :
    match (chunks.foldlM bundler.addAsset assets world).1 with
    | .ok rendered => rendered = assets ++ chunks.map bundler.assetOf ∧
        ((rendered.map Asset.path).map Path.components).Nodup
    | .error cause =>
        ¬ (((assets ++ chunks.map bundler.assetOf).map Asset.path).map Path.components).Nodup ∧
        ∃ chunk ∈ chunks,
          cause = .configuration (.sharedAsset (bundler.assetPath chunk.name)) := by
  induction chunks generalizing assets world with
  | nil => exact ⟨by simp, distinct⟩
  | cons chunk rest induction =>
      rw [List.foldlM_cons, Action.bind_apply, addAsset_apply]
      by_cases taken : assets.any fun asset =>
          asset.path.sameSteps (bundler.assetPath chunk.name)
      · rw [if_pos taken]
        refine ⟨?_, chunk, List.mem_cons_self, rfl⟩
        rcases List.any_eq_true.mp taken with ⟨asset, listed, same⟩
        rw [Path.sameSteps, decide_eq_true_eq] at same
        intro all
        rw [List.map_append, List.map_append, List.nodup_append] at all
        refine all.2.2 asset.path.components ?_ (bundler.assetPath chunk.name).components ?_ same
        · exact List.mem_map_of_mem (List.mem_map_of_mem listed)
        · exact List.mem_cons_self
      · rw [if_neg taken]
        have extended : (((assets ++ [bundler.assetOf chunk]).map Asset.path).map
            Path.components).Nodup := by
          rw [List.map_append, List.map_append, List.nodup_append]
          refine ⟨distinct, List.nodup_singleton _, ?_⟩
          rintro steps listed other single rfl
          rw [List.map_map] at listed
          rcases List.mem_map.mp listed with ⟨asset, inside, same⟩
          apply taken
          apply List.any_eq_true.mpr
          exact ⟨asset, inside, by
            rw [Path.sameSteps, decide_eq_true_eq]
            exact same.trans (List.mem_singleton.mp single)⟩
        have later := induction extended (world.record (.rendering chunk.name chunk.modules.length
          (bundler.assetPath chunk.name)))
        rcases told : rest.foldlM bundler.addAsset (assets ++ [bundler.assetOf chunk])
            (world.record (.rendering chunk.name chunk.modules.length
              (bundler.assetPath chunk.name))) with ⟨cause | rendered, after⟩
        · rw [told] at later
          rcases later with ⟨clash, other, listed, named⟩
          dsimp only
          rw [told]
          exact ⟨by simpa using clash, other, List.mem_cons_of_mem _ listed, named⟩
        · rw [told] at later
          dsimp only
          rw [told]
          exact ⟨by simpa using later.1, later.2⟩

/-- The modules of all entries were built: each entry has its chunk, and with it
the path of its bundle. -/
theorem gather_ok {modules : ModuleTable} {points : List EntryPoint}
    (gathered : bundler.gather world = (.ok (modules, points), final)) :
    ((modules.chunksOf points).map bundler.assetOf).map Asset.path = bundler.assetPaths := by
  rcases Action.bind_ok gathered with ⟨_, begun, -, guarded⟩
  rcases Action.bind_ok guarded with ⟨_, tapped, -, building⟩
  rcases buildModules_ok building with ⟨state, rfl, progress⟩
  have chunks := progress.forall₂_chunks
  rw [assetPaths]
  generalize state.modules.chunksOf points = found at chunks ⊢
  generalize bundler.config.entries.toList = entries at chunks ⊢
  induction chunks with
  | nil => rfl
  | cons holds _ induction =>
      rw [List.map_cons, List.map_cons, List.map_cons, induction, assetOf, holds.name]
      rfl

/-- Bundles are prepared one for each entry, at paths none of which has the
steps of another. -/
theorem prepare_ok {assets : List Asset} {modules : ModuleTable}
    (prepared : bundler.prepare world = (.ok (assets, modules), final)) :
    assets.map Asset.path = bundler.assetPaths ∧
      (bundler.assetPaths.map Path.components).Nodup := by
  rcases Action.bind_ok prepared with ⟨⟨modules, points⟩, begun, gathered, rest⟩
  rcases Action.bind_ok rest with ⟨rendered, shown, rendering, asked⟩
  rcases Action.bind_ok asked with ⟨_, agreed, -, returned⟩
  cases returned
  have nothing : ((([] : List Asset).map Asset.path).map Path.components).Nodup := .nil
  have told := bundler.addAssets_apply (modules.chunksOf points) nothing begun
  rw [rendering] at told
  rcases told with ⟨rfl, distinct⟩
  have paths := gather_ok gathered
  rw [List.nil_append, paths] at distinct
  exact ⟨paths, distinct⟩

theorem isAbsolute_of_prepare {assets : List Asset} {modules : ModuleTable}
    (rooted : bundler.Rooted) (prepared : bundler.prepare world = (.ok (assets, modules), final)) :
    ∀ asset ∈ assets, asset.path.isAbsolute = true := by
  intro asset listed
  have named := List.mem_map_of_mem (f := Asset.path) listed
  rw [(prepare_ok prepared).1] at named
  rcases List.mem_map.mp named with ⟨entry, -, same⟩
  rw [← same]
  exact rooted.isAbsolute_assetPath entry.1

/-- An output directory that is to be removed is not the root, since it does not
hold the sources. -/
theorem place_outputDirectory_ne_nil {assets : List Asset} {modules : ModuleTable}
    (rooted : bundler.Rooted) (prepared : bundler.prepare world = (.ok (assets, modules), final))
    (clean : bundler.config.output.clean = true) :
    bundler.outputDirectory.place ≠ [] := by
  intro atRoot
  rcases Action.bind_ok prepared with ⟨_, _, gathered, -⟩
  rcases Action.bind_ok gathered with ⟨_, _, guarded, -⟩
  have normal := FileTree.normalize_of_isAbsolute rooted.isAbsolute_outputDirectory
  rw [atRoot] at normal
  have holds : bundler.context.startsWith bundler.outputDirectory = true := by
    have steps : bundler.outputDirectory.components = [.root] := by
      rw [outputDirectory, Config.outputDirectory, ← Path.normalize_normalize]
      exact congrArg Path.components normal
    rw [Path.startsWith, steps, Path.components_of_isAbsolute rooted.absolute]
    rfl
  rw [guardCleaning, clean, holds] at guarded
  cases guarded

/-- What a run leaves of an entry: the chunk with its name, made around the
module of its file, and the bundle of this chunk. -/
structure Delivers (bundler : Bundler) (table : ModuleTable) (entry : String × String)
    (asset : Asset) : Prop where
  name : asset.chunk.name = entry.1
  id : asset.chunk.entry.id =
    Path.identifier bundler.context (bundler.context.join ⟨entry.2⟩).normalize
  built : asset.chunk.entry ∈ table.modules
  embedded : asset.chunk.entry ∈ asset.chunk.modules
  path : asset.path = bundler.outputDirectory.join ⟨bundler.config.output.bundleName entry.1⟩
  text : asset.text = asset.chunk.bundle

/-- A chunk that holds what an entry reaches holds the module of the entry. -/
theorem delivers_assetOf {table : ModuleTable} {entry : String × String} {chunk : Chunk}
    (holds : chunk.Holds table (bundler.pointOf entry)) :
    bundler.Delivers table entry (bundler.assetOf chunk) := by
  rcases ModuleTable.get?_eq_some holds.entry with ⟨built, sameId⟩
  have name : chunk.name = entry.1 := holds.name
  have reached : table.Reaches (bundler.pointOf entry).id chunk.entry.id := by
    rw [sameId]
    exact .refl
  exact ⟨name, sameId, built, (holds.mem_iff _).mpr ⟨built, reached⟩,
    congrArg bundler.assetPath name, rfl⟩

/-- Bundles are prepared one for each entry, in the order of the entries. -/
theorem delivers_of_prepare {assets : List Asset} {modules : ModuleTable}
    (prepared : bundler.prepare world = (.ok (assets, modules), final)) :
    List.Forall₂ (bundler.Delivers modules) bundler.config.entries.toList assets := by
  rcases Action.bind_ok prepared with ⟨⟨table, points⟩, begun, gathered, rest⟩
  rcases Action.bind_ok rest with ⟨rendered, shown, rendering, asked⟩
  rcases Action.bind_ok asked with ⟨_, agreed, -, returned⟩
  cases returned
  rcases Action.bind_ok gathered with ⟨_, guarded, -, checked⟩
  rcases Action.bind_ok checked with ⟨_, tapped, -, building⟩
  rcases buildModules_ok building with ⟨state, rfl, progress⟩
  have nothing : ((([] : List Asset).map Asset.path).map Path.components).Nodup := .nil
  have told := bundler.addAssets_apply (state.modules.chunksOf points) nothing begun
  rw [rendering] at told
  rw [told.1, List.nil_append, List.forall₂_map_right_iff]
  exact progress.forall₂_chunks.imp fun _ _ => delivers_assetOf

/-- No entry is lost: a run that succeeds leaves exactly one bundle for each
entry, in the order of the entries, whether or not the module of the entry was
built before.  No two bundles have the same path, and the files are theirs. -/
theorem run_delivers {result : BuildResult} (succeeded : bundler.run world = (.ok result, final)) :
    List.Forall₂ (bundler.Delivers result.modules) bundler.config.entries.toList result.assets ∧
      result.files = result.assets.map Asset.path ∧
      (result.files.map Path.components).Nodup := by
  have files : result.files = result.assets.map Asset.path := by
    rw [run_eq] at succeeded
    rcases Action.bind_ok succeeded with ⟨_, _, -, rest⟩
    rcases Action.bind_ok rest with ⟨_, _, -, returned⟩
    cases returned
    rfl
  rcases run_eq_ok succeeded with ⟨middle, prepared, -⟩
  rcases prepare_ok prepared with ⟨paths, distinct⟩
  refine ⟨delivers_of_prepare prepared, files, ?_⟩
  rw [files, paths]
  exact distinct

/-- Two entries that name one file, and one that names a module which the first
requires. -/
def overlappingBundler : Bundler :=
  { sharedBundler with
    config := { Config.default with
      entries := .named (.ofPairs
        [("first", "./a.js"), ("again", "./lib/../a.js"), ("required", "c.js")]) } }

theorem run_delivers_overlapping :
    ∃ result final, overlappingBundler.run sharedWorld = (.ok result, final) ∧
      result.modules.ids = ["./a.js", "./c.js"] ∧
      result.assets.map (fun asset => (asset.chunk.name, asset.chunk.entry.id)) =
        [("first", "./a.js"), ("again", "./a.js"), ("required", "./c.js")] ∧
      List.Forall₂ (overlappingBundler.Delivers result.modules)
        overlappingBundler.config.entries.toList result.assets := by
  have evaluated : ((overlappingBundler.run sharedWorld).1.map fun result =>
      (result.modules.ids,
        result.assets.map fun asset => (asset.chunk.name, asset.chunk.entry.id))).toOption =
      some (["./a.js", "./c.js"],
        [("first", "./a.js"), ("again", "./a.js"), ("required", "./c.js")]) := by
    decide +kernel
  rcases ran : overlappingBundler.run sharedWorld with ⟨cause | result, final⟩
  · rw [ran] at evaluated
    cases evaluated
  · rw [ran] at evaluated
    have told := Option.some.inj evaluated
    exact ⟨result, final, rfl, congrArg Prod.fst told, congrArg Prod.snd told,
      (run_delivers ran).1⟩

end Bundler

end ScriptBundle
