import ScriptBundle.Proofs.Publication

/-!
# Bundles that overwrite each other

Two entries whose bundles have paths with the same steps are refused before
anything is written.  Paths with different steps may still lead to one file, by
a detour; then the bundle that is written last is all that is left.  So the
bundles of a run that succeeds are all there exactly if no two of their paths
have one normal form.
-/

namespace ScriptBundle

namespace FileTree

variable {tree : FileTree} {workingDirectory location : Location} {path : Path}

/-- The text that a file was made of is read from it. -/
theorem readText_eq_ok {text : String}
    (resolved : tree.resolve workingDirectory path = .ok location)
    (held : tree.entryAt location = some (.file text.toUTF8)) :
    tree.readText workingDirectory path = .ok text := by
  have found := lookup_eq_file_iff.mpr ⟨location, resolved, held⟩
  have decoded : String.fromUTF8? text.toUTF8 = some text :=
    dif_pos text.isValidUTF8
  simp only [readText, found, bind, Except.bind, decoded]
  rfl

end FileTree

namespace Path

/-- Steps none of which leads up are names. -/
theorem exists_names {steps : List Component} (areSteps : ∀ step ∈ steps, IsStep step)
    (level : Component.up ∉ steps) :
    ∃ names : List (List Char), (∀ name ∈ names, IsName name) ∧
      steps = names.map Component.name := by
  induction steps with
  | nil =>
      refine ⟨[], ?_, rfl⟩
      intro name listed
      cases listed
  | cons step rest induction =>
      rcases induction (fun other member => areSteps other (List.mem_cons_of_mem _ member))
        (fun member => level (List.mem_cons_of_mem _ member)) with ⟨names, areNames, rfl⟩
      cases areSteps step List.mem_cons_self with
      | @name text isName => exact ⟨text :: names, List.forall_mem_cons.mpr ⟨isName, areNames⟩, rfl⟩
      | up => exact absurd List.mem_cons_self level

/-- An absolute path without a step up keeps its steps in its normal form. -/
theorem components_normalize_of_no_up {path : Path} (absolute : path.isAbsolute = true)
    (level : Component.up ∉ path.components) : path.normalize.components = path.components := by
  have shape := components_of_isAbsolute absolute
  rw [shape] at level
  rcases exists_names (fun _ member => isStep_of_mem_steps member)
    (fun member => level (List.mem_cons_of_mem _ member)) with ⟨names, areNames, named⟩
  have normal : IsNormal true path.components := by
    refine ⟨[.root], names, .root, areNames, ?_⟩
    rw [shape, named]
    rfl
  rw [components_normalize, normal.normalizeComponents_eq]

end Path

namespace Asset

variable {world final : World} {assets : List Asset}

/-- After bundles were written each has a file, and it holds the text of the
bundle if no other bundle was written to it. -/
theorem writeAll_found (absolute : ∀ asset ∈ assets, asset.path.isAbsolute = true)
    (written : assets.forM write world = (.ok (), final)) (workingDirectory : Location) :
    (∀ asset ∈ assets, final.tree.LeadsToFile workingDirectory asset.path asset.path.place) ∧
      (assets.Pairwise (fun asset other => asset.path.place ≠ other.path.place) →
        ∀ asset ∈ assets,
          final.tree.readText workingDirectory asset.path = .ok asset.text) := by
  induction assets generalizing world with
  | nil =>
      refine ⟨?_, ?_⟩
      · intro asset listed
        cases listed
      · intro _ asset listed
        cases listed
  | cons asset rest induction =>
      change (asset.write >>= fun _ => rest.forM write) world = (.ok (), final) at written
      rcases Action.bind_ok written with ⟨_, middle, first, later⟩
      rcases List.forall_mem_cons.mp absolute with ⟨firstAbsolute, restAbsolute⟩
      rcases write_ok firstAbsolute first workingDirectory with ⟨resolved, made, -, overlay⟩
      rcases writeAll_ok restAbsolute later with ⟨more, -, grown⟩
      rcases induction restAbsolute later with ⟨found, intact⟩
      have held : middle.tree.entryAt asset.path.place = some (.file asset.text.toUTF8) := by
        rw [overlay.entryAt_eq, file, FileTree.lookup_singleton, if_pos rfl]
      have leads : final.tree.LeadsToFile workingDirectory asset.path asset.path.place :=
        grown.keeps.leadsToFile ⟨resolved, _, held⟩
      refine ⟨List.forall_mem_cons.mpr ⟨leads, found⟩, ?_⟩
      intro apart
      rcases List.pairwise_cons.mp apart with ⟨alone, apart⟩
      refine List.forall_mem_cons.mpr ⟨?_, intact apart⟩
      -- no bundle that was written later goes to the same place
      have untouched : asset.path.place ∉ (rest.map file).reverse.map Prod.fst := by
        rw [← List.map_reverse, List.map_map, List.mem_map]
        rintro ⟨other, listed, same⟩
        exact alone other (List.mem_reverse.mp listed) same.symm
      exact FileTree.readText_eq_ok leads.resolved (grown.keeps.file _ _ held untouched)

/-- The files of a tree hold bundles: each bundle is read from its path, or the
last one whose path leads to the same place. -/
def AllHeld (assets : List Asset) (tree : FileTree) : Prop :=
  ∀ asset ∈ assets, ∃ last, lastAt asset.path.place assets = some last ∧
    tree.readText [] asset.path = .ok last.text

theorem writeAll_held (absolute : ∀ asset ∈ assets, asset.path.isAbsolute = true)
    (written : assets.forM write world = (.ok (), final)) : AllHeld assets final.tree := by
  intro asset listed
  have leads := (writeAll_found absolute written []).1 asset listed
  rcases writeAll_ok absolute written with ⟨made, -, overlay⟩
  cases last : lastAt asset.path.place assets with
  | none =>
      have elsewhere := List.find?_eq_none.mp last asset (List.mem_reverse.mpr listed)
      exact absurd (decide_eq_true rfl) elsewhere
  | some other =>
      have held : final.tree.entryAt asset.path.place = some (.file other.text.toUTF8) := by
        rw [overlay.entryAt_eq, lookup_files, last]
        rfl
      exact ⟨other, rfl, FileTree.readText_eq_ok leads.resolved held⟩

end Asset

namespace Bundler

variable {bundler : Bundler} {world final : World}

theorem publish_ok {assets : List Asset} (quiet : bundler.taps.KeepTree)
    (published : bundler.publish assets world = (.ok (), final)) :
    ∃ emptied filled : World, assets.forM Asset.write emptied = (.ok (), filled) ∧
      final.tree = filled.tree := by
  rcases Action.bind_ok published with ⟨_, emptied, -, cleaned⟩
  rcases Action.bind_ok cleaned with ⟨_, filled, written, called⟩
  have kept := quiet.call .done filled
  rw [called] at kept
  exact ⟨emptied, filled, written, kept⟩

/-- The bundles of a result are files of their own, and each holds its text. -/
structure Intact (result : BuildResult) (final : World) : Prop where
  apart : result.assets.Pairwise fun asset other => ¬ SameFile final asset.path other.path
  held : ∀ asset ∈ result.assets,
    final.tree.readText final.workingDirectory asset.path = .ok asset.text

/-- Absolute paths that lead to files lead to one file exactly if they have one
normal form. -/
theorem sameFile_iff {path other : Path} {place otherPlace : Location}
    (absolute : path.isAbsolute = true) (otherAbsolute : other.isAbsolute = true)
    (leads : world.tree.LeadsToFile world.workingDirectory path place)
    (otherLeads : world.tree.LeadsToFile world.workingDirectory other otherPlace) :
    SameFile world path other ↔ path.normalize = other.normalize := by
  constructor
  · rintro ⟨location, first, second⟩
    rw [first.normalize_eq_absoluteRoute absolute, second.normalize_eq_absoluteRoute otherAbsolute]
  · intro same
    have here := leads.normalize
    rw [same] at here
    exact ⟨place, leads, otherLeads.normalize.unique here ▸ otherLeads⟩

theorem intact_iff {result : BuildResult} (rooted : bundler.Rooted)
    (quiet : bundler.taps.KeepTree) (succeeded : bundler.run world = (.ok result, final)) :
    Intact result final ↔ (bundler.assetPaths.map Path.normalize).Nodup := by
  rcases run_eq_ok succeeded with ⟨middle, prepared, published⟩
  rcases prepare_ok prepared with ⟨paths, -⟩
  rcases publish_ok quiet published with ⟨emptied, filled, written, kept⟩
  have absolute := isAbsolute_of_prepare rooted prepared
  rcases Asset.writeAll_found absolute written final.workingDirectory with ⟨found, intact⟩
  rw [← kept] at found intact
  have same_iff : ∀ asset ∈ result.assets, ∀ other ∈ result.assets,
      (SameFile final asset.path other.path ↔ asset.path.normalize = other.path.normalize) := by
    intro asset listed other otherListed
    exact sameFile_iff (absolute asset listed) (absolute other otherListed) (found asset listed)
      (found other otherListed)
  have apart_iff : (result.assets.Pairwise fun asset other =>
      ¬ SameFile final asset.path other.path) ↔ (bundler.assetPaths.map Path.normalize).Nodup := by
    rw [← paths, List.Nodup, List.pairwise_map, List.pairwise_map]
    apply List.Pairwise.iff_of_mem
    intro asset other listed otherListed
    exact not_congr (same_iff asset listed other otherListed)
  constructor
  · intro all
    exact apart_iff.mp all.apart
  · intro differ
    have apart := apart_iff.mpr differ
    refine ⟨apart, intact ?_⟩
    apply apart.imp_of_mem
    intro asset other listed otherListed differ same
    exact differ ⟨_, found asset listed, same ▸ found other otherListed⟩

/-- Bundles are refused, when all modules are built, exactly if two of their
paths have the same steps. -/
theorem refused_iff (quiet : bundler.taps.KeepTree) {modules : ModuleTable}
    {points : List EntryPoint} {middle : World}
    (gathered : bundler.gather world = (.ok (modules, points), middle)) :
    (∃ path final, bundler.run world = (.error (.configuration (.sharedAsset path)), final) ∧
        final.tree = world.tree) ↔
      ¬ (bundler.assetPaths.map Path.components).Nodup := by
  have nothing : ((([] : List Asset).map Asset.path).map Path.components).Nodup := .nil
  have told := bundler.addAssets_apply (modules.chunksOf points) nothing middle
  rcases rendering : (modules.chunksOf points).foldlM bundler.addAsset [] middle with
    ⟨cause | assets, shown⟩
  · rw [rendering] at told
    rcases told with ⟨clash, chunk, -, rfl⟩
    rw [List.nil_append, gather_ok gathered] at clash
    refine iff_of_true ⟨bundler.assetPath chunk.name, shown, ?_⟩ clash
    have prepared : bundler.prepare world =
        (.error (.configuration (.sharedAsset (bundler.assetPath chunk.name))), shown) := by
      rw [prepare, Action.bind_apply, gathered]
      dsimp only
      rw [Action.bind_apply, rendering]
    have kept := prepare_keepsTree quiet world
    rw [prepared] at kept
    refine ⟨?_, kept⟩
    rw [run_eq, Action.bind_apply, prepared]
  · rw [rendering] at told
    rcases told with ⟨rfl, distinct⟩
    rw [List.nil_append, gather_ok gathered] at distinct
    refine iff_of_false ?_ (not_not_intro distinct)
    rintro ⟨path, final, failed, -⟩
    have prepared := prepare_of_run_error failed rfl
    rw [prepare, Action.bind_apply, gathered] at prepared
    dsimp only at prepared
    rw [Action.bind_apply, rendering] at prepared
    rcases Action.bind_error prepared with asked | ⟨_, agreed, -, returned⟩
    · rcases bundler.taps.call_failsBy .emit shown _ final asked with ⟨name, cause, other⟩
      cases other
    · cases returned

/-- When the bundles of a run, of any configuration with any taps that change no
tree, are safe from each other.  If the run succeeds, then they are files of
their own that hold their texts exactly if no two of their paths have one
normal form.  If all modules are built, then the run is refused, and changes
nothing, exactly if two of the paths have the same steps. -/
theorem run_intact_iff {registry : LoaderRegistry} {config : Config} {start begun : World}
    {described : Bundler} (configured : ofConfig registry config start = (.ok described, begun))
    (taps : Taps) (quiet : taps.KeepTree) (world : World) :
    let bundler : Bundler := { described with taps := taps }
    (∀ result final, bundler.run world = (.ok result, final) →
      (Intact result final ↔ (bundler.assetPaths.map Path.normalize).Nodup)) ∧
    ∀ modules points middle, bundler.gather world = (.ok (modules, points), middle) →
      ((∃ path final,
          bundler.run world = (.error (.configuration (.sharedAsset path)), final) ∧
            final.tree = world.tree) ↔
        ¬ (bundler.assetPaths.map Path.components).Nodup) := by
  have rooted := rooted_ofConfig configured
  constructor
  · intro result final succeeded
    exact intact_iff ⟨rooted.absolute, rooted.normal⟩ quiet succeeded
  · intro modules points middle gathered
    exact refused_iff quiet gathered

/-- The bundles of a run that succeeds are safe from each other if no step of
their paths leads up. -/
theorem intact_of_no_up {result : BuildResult} (rooted : bundler.Rooted)
    (quiet : bundler.taps.KeepTree) (succeeded : bundler.run world = (.ok result, final))
    (level : ∀ path ∈ bundler.assetPaths, Path.Component.up ∉ path.components) :
    Intact result final := by
  rcases run_eq_ok succeeded with ⟨middle, prepared, -⟩
  rcases prepare_ok prepared with ⟨-, distinct⟩
  have kept : ∀ path ∈ bundler.assetPaths, path.normalize.components = path.components := by
    intro path listed
    apply Path.components_normalize_of_no_up _ (level path listed)
    rcases List.mem_map.mp listed with ⟨entry, -, rfl⟩
    exact rooted.isAbsolute_assetPath entry.1
  apply (intact_iff rooted quiet succeeded).mpr
  apply List.Nodup.of_map Path.components
  rw [List.map_map]
  exact (List.map_congr_left kept).symm ▸ distinct

/-- Two modules that require nothing. -/
def pairWorld : World where
  tree := ⟨[(["work"], .directory),
    (["work", "a.js"], .file "exports.v = 1;".toUTF8),
    (["work", "b.js"], .file "exports.v = 2;".toUTF8)]⟩
  workingDirectory := ["work"]
  journal := []

/-- Two entries with bundles of their own. -/
def pairConfig : Config :=
  { Config.default with entries := .named (.ofPairs [("a", "./a.js"), ("b", "./b.js")]) }

def pairBundler : Bundler :=
  ⟨pairConfig, pairConfig.contextDirectory pairWorld.workingPath, ⟨[]⟩, .none⟩

theorem ofConfig_pair :
    ofConfig .empty pairConfig pairWorld = (.ok pairBundler, pairWorld) :=
  rfl

theorem pair_succeeds : (pairBundler.run pairWorld).1.toOption.isSome = true := by
  decide +kernel

/-- Two entries whose bundles have one name. -/
def clashConfig : Config :=
  { pairConfig with output := { Output.default with filename := "all.js" } }

def clashBundler : Bundler :=
  ⟨clashConfig, clashConfig.contextDirectory pairWorld.workingPath, ⟨[]⟩, .none⟩

theorem ofConfig_clash :
    ofConfig .empty clashConfig pairWorld = (.ok clashBundler, pairWorld) :=
  rfl

theorem clash_gathers : (clashBundler.gather pairWorld).1.toOption.isSome = true := by
  decide +kernel

/-- Bundles with names of their own are safe from each other, and bundles that
have one name are refused. -/
theorem run_intact_iff_pair :
    (∃ result final, pairBundler.run pairWorld = (.ok result, final) ∧ Intact result final) ∧
      ∃ path final,
        clashBundler.run pairWorld = (.error (.configuration (.sharedAsset path)), final) ∧
          final.tree = pairWorld.tree := by
  constructor
  · rcases ran : pairBundler.run pairWorld with ⟨cause | result, final⟩
    · have succeeds := pair_succeeds
      rw [ran] at succeeds
      cases succeeds
    · have apart : (pairBundler.assetPaths.map Path.normalize).Nodup := by
        decide +kernel
      refine ⟨result, final, rfl, ?_⟩
      exact ((run_intact_iff ofConfig_pair .none Taps.keepTree_none pairWorld).1
        result final ran).mpr apart
  · rcases gathered : clashBundler.gather pairWorld with ⟨cause | ⟨modules, points⟩, middle⟩
    · have gathers := clash_gathers
      rw [gathered] at gathers
      cases gathers
    · have shared : ¬ (clashBundler.assetPaths.map Path.components).Nodup := by
        decide +kernel
      exact ((run_intact_iff ofConfig_clash .none Taps.keepTree_none pairWorld).2
        modules points middle gathered).mpr shared

/-- Two entries, the second of which has the bundle of the first by a detour. -/
def detourConfig : Config :=
  { Config.default with
    entries := .named (.ofPairs [("a", "./a.js"), ("x/../a", "./b.js")]) }

def detourBundler : Bundler :=
  ⟨detourConfig, detourConfig.contextDirectory pairWorld.workingPath, ⟨[]⟩, .none⟩

theorem detour_succeeds : (detourBundler.run pairWorld).1.toOption.isSome = true := by
  decide +kernel

/-- The second bundle is written to the file of the first, and nothing is
refused. -/
theorem detour_overwrites :
    ∃ result final, detourBundler.run pairWorld = (.ok result, final) ∧
      ¬ Intact result final := by
  have rooted : detourBundler.Rooted :=
    rooted_ofConfig (show ofConfig .empty detourConfig pairWorld = (.ok detourBundler, _) from rfl)
  rcases ran : detourBundler.run pairWorld with ⟨cause | result, final⟩
  · have succeeds := detour_succeeds
    rw [ran] at succeeds
    cases succeeds
  · have shared : ¬ (detourBundler.assetPaths.map Path.normalize).Nodup := by
      decide +kernel
    refine ⟨result, final, rfl, ?_⟩
    intro intact
    exact shared ((intact_iff rooted Taps.keepTree_none ran).mp intact)

end Bundler

end ScriptBundle
