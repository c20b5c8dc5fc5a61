import Mathlib.Data.List.Infix
import ScriptBundle.Proofs.Ancestor
import ScriptBundle.Proofs.Overwriting

/-!
# Where a run changes the tree

A run only changes the tree where its paths lead.  It may remove what is in the
output directory, if it is told to; it puts files where the paths of bundles
lead; and it makes directories on the way to these.

The guard compares the steps of two paths, and no directory is looked at.  Since
both paths are normalized, and the tree has no links, it refuses exactly those
removals that would take the sources with them, however the two directories are
spelled.
-/

namespace ScriptBundle

namespace Path

/-- The steps of a normalized absolute path begin with those of another exactly
if its place is the place of that, or below it. -/
theorem startsWith_iff {path ancestor : Path} (absolute : path.isAbsolute = true)
    (normal : path.normalize = path) (ancestorAbsolute : ancestor.isAbsolute = true)
    (ancestorNormal : ancestor.normalize = ancestor) :
    path.startsWith ancestor = true ↔ ancestor.place <+: path.place := by
  have injective : Function.Injective fun name : String => Component.name name.toList := by
    intro name other same
    exact String.toList_inj.mp (Component.name.inj same)
  rw [startsWith, components_eq_place absolute normal,
    components_eq_place ancestorAbsolute ancestorNormal, List.isPrefixOf_iff_prefix,
    List.cons_prefix_cons, List.prefix_map_iff_of_injective injective]
  exact and_iff_right rfl

/-- Wherever an absolute path leads, the normalized path has its place there. -/
theorem eq_place_normalize {path : Path} {tree : FileTree} {workingDirectory location : Location}
    (absolute : path.isAbsolute = true)
    (resolved : tree.resolve workingDirectory path = .ok location) :
    location = path.normalize.place := by
  rw [place, components_normalize, FileTree.descend_normalizeComponents]
  have here := FileTree.resolve_eq_descend resolved
  rwa [FileTree.origin, if_pos absolute] at here

end Path

namespace Asset

variable {world final : World} {assets : List Asset} {location : Location}

/-- However writing bundles ends, each of those that were written has a file,
and else only directories were made. -/
theorem writeAll_leads {result : Except BuildError Unit}
    (absolute : ∀ asset ∈ assets, asset.path.isAbsolute = true)
    (ran : assets.forM write world = (result, final)) :
    ∃ (written : List Asset) (made : List Location),
      (∀ asset ∈ written, asset ∈ assets ∧
        final.tree.LeadsToFile [] asset.path asset.path.place) ∧
      made ⊆ assets.flatMap trail ∧
      FileTree.Overlay (written.map file).reverse made world.tree final.tree := by
  cases result with
  | ok _ =>
      rcases writeAll_ok absolute ran with ⟨made, above, overlay⟩
      have found := (writeAll_found absolute ran []).1
      exact ⟨assets, made, fun asset listed => ⟨listed, found asset listed⟩, above, overlay⟩
  | error cause =>
      rcases Action.forM_error ran with ⟨written, asset, rest, middle, rfl, before, refused⟩
      rcases List.forall_mem_append.mp absolute with ⟨writtenAbsolute, othersAbsolute⟩
      rcases writeAll_ok writtenAbsolute before with ⟨made, above, overlay⟩
      have found := (writeAll_found writtenAbsolute before []).1
      rcases write_error (othersAbsolute asset List.mem_cons_self) refused with
        ⟨-, more, moreAbove, grown⟩
      refine ⟨written, more ++ made, ?_, ?_, overlay.trans grown⟩
      · intro other listed
        exact ⟨List.mem_append_left _ listed, grown.keeps.leadsToFile (found other listed)⟩
      · rw [List.flatMap_append, List.flatMap_cons]
        apply List.append_subset.mpr
        exact ⟨List.subset_append_of_subset_right _ (List.subset_append_of_subset_left _ moreAbove),
          List.subset_append_of_subset_left _ above⟩

/-- A directory above a bundle is where some first steps of its path lead. -/
theorem exists_steps_of_mem_trail {asset : Asset} (absolute : asset.path.isAbsolute = true)
    (listed : location ∈ asset.trail) :
    ∃ steps, steps <+: asset.path.components.dropLast ∧
      FileTree.descend [] steps = location := by
  rw [trail] at listed
  cases above : asset.path.parent with
  | none =>
      rw [above] at listed
      cases listed
  | some parent =>
      rw [above] at listed
      rw [← Path.components_parent absolute above]
      exact FileTree.exists_steps_of_mem_trail (Path.isAbsolute_of_parent absolute above) listed

end Asset

namespace Bundler

variable {bundler : Bundler} {world final : World} {assets : List Asset}

/-- Why a place is not as it was. -/
inductive Change (bundler : Bundler) (before after : FileTree) (location : Location) : Prop where
  /-- It was removed with the output directory, as the configuration asks. -/
  | removed (asked : bundler.config.output.clean = true)
      (inside : bundler.outputDirectory.place <+: location)
      (gone : after.entryAt location = none)
  /-- The path of a bundle leads to it. -/
  | written {path : Path} (listed : path ∈ bundler.assetPaths)
      (leads : after.LeadsToFile [] path location)
  /-- It became a directory on the way to a bundle; nothing was there, or what
  was there was removed. -/
  | made {path : Path} {steps : List Path.Component} (listed : path ∈ bundler.assetPaths)
      (above : steps <+: path.components.dropLast)
      (leads : FileTree.descend [] steps = location)
      (directory : after.entryAt location = some .directory)
      (free : before.entryAt location = none ∨
        bundler.config.output.clean = true ∧ bundler.outputDirectory.place <+: location)

/-- A run changed a tree only where its paths lead, and not so that the
directory of the sources is gone. -/
structure Confined (bundler : Bundler) (before after : FileTree) : Prop where
  change : ∀ location, after.entryAt location ≠ before.entryAt location →
    bundler.Change before after location
  context : before.hasDirectory bundler.context.place = true →
    after.hasDirectory bundler.context.place = true

theorem confined_of_eq {before after : FileTree} (same : after = before) :
    bundler.Confined before after := by
  subst same
  exact ⟨fun location differs => absurd rfl differs, id⟩

/-- Files and directories that were put into a cleared tree are confined if they
are put where the paths of bundles lead. -/
theorem confined_of_overlay {removed : Bool} {written : List Asset} {made : List Location}
    {before after : FileTree}
    (asked : removed = true → bundler.config.output.clean = true)
    (outside : removed = true → ¬ bundler.outputDirectory.place <+: bundler.context.place)
    (found : ∀ asset ∈ written, asset.path ∈ bundler.assetPaths ∧
      after.LeadsToFile [] asset.path asset.path.place)
    (above : ∀ location ∈ made, ∃ path ∈ bundler.assetPaths, ∃ steps,
      steps <+: path.components.dropLast ∧ FileTree.descend [] steps = location)
    (overlay : FileTree.Overlay (written.map Asset.file).reverse made
      (bundler.cleared removed before) after) :
    bundler.Confined before after := by
  constructor
  · intro location differs
    have below : location ≠ [] := by
      rintro rfl
      exact differs (after.entryAt_root.trans before.entryAt_root.symm)
    have cleared := bundler.entryAt_cleared removed before below
    have held := overlay.entryAt_eq location
    rw [Asset.lookup_files] at held
    cases last : Asset.lastAt location written with
    | some asset =>
        rcases Asset.mem_of_lastAt last with ⟨listed, rfl⟩
        exact .written (found asset listed).1 (found asset listed).2
    | none =>
        rw [last] at held
        dsimp only [Option.map_none] at held
        by_cases isMade : location ∈ made
        · rcases above location isMade with ⟨path, listed, steps, begins, leads⟩
          rw [if_pos isMade] at held
          refine .made listed begins leads held ?_
          rw [overlay.fresh location isMade] at cleared
          split at cleared
          · next gone => exact .inr ⟨asked gone.1, gone.2⟩
          · exact .inl cleared.symm
        · rw [if_neg isMade, cleared] at held
          split at held
          · next gone => exact .removed (asked gone.1) gone.2 held
          · exact absurd held differs
  · intro directory
    rw [FileTree.hasDirectory_iff] at directory ⊢
    apply overlay.keeps.directory
    by_cases root : bundler.context.place = []
    · rw [root, FileTree.entryAt_root]
    · rw [bundler.entryAt_cleared removed before root, if_neg]
      · exact directory
      · rintro ⟨gone, holds⟩
        exact outside gone holds

/-- The guard refuses a build exactly if the output directory is to be removed
and the directory of the sources is in it. -/
theorem guardCleaning_iff (rooted : bundler.Rooted) (world : World) :
    (∃ cause, bundler.guardCleaning world = (.error cause, world)) ↔
      bundler.config.output.clean = true ∧
        bundler.outputDirectory.place <+: bundler.context.place := by
  rw [← Path.startsWith_iff rooted.absolute rooted.normal rooted.isAbsolute_outputDirectory
    (Path.normalize_normalize _), ← Bool.and_eq_true_iff, guardCleaning]
  split
  · next refuses => exact iff_of_true ⟨_, rfl⟩ refuses
  · next allows =>
    refine iff_of_false ?_ allows
    rintro ⟨cause, refused⟩
    cases refused

/-- A build that was prepared has passed the guard. -/
theorem not_holds_of_prepare {prepared : List Asset × ModuleTable} (rooted : bundler.Rooted)
    (succeeded : bundler.prepare world = (.ok prepared, final))
    (clean : bundler.config.output.clean = true) :
    ¬ bundler.outputDirectory.place <+: bundler.context.place := by
  intro holds
  rcases (guardCleaning_iff rooted world).mpr ⟨clean, holds⟩ with ⟨cause, refused⟩
  rcases Action.bind_ok succeeded with ⟨_, _, gathered, -⟩
  rcases Action.bind_ok gathered with ⟨_, _, guarded, -⟩
  rw [refused] at guarded
  cases guarded

theorem publish_confined {result : Except BuildError Unit} (rooted : bundler.Rooted)
    (quiet : bundler.taps.KeepTree) (absolute : ∀ asset ∈ assets, asset.path.isAbsolute = true)
    (paths : ∀ asset ∈ assets, asset.path ∈ bundler.assetPaths)
    (outside : bundler.config.output.clean = true →
      ¬ bundler.outputDirectory.place <+: bundler.context.place)
    (ran : bundler.publish assets world = (result, final)) :
    bundler.Confined world.tree final.tree := by
  rw [publish, Action.bind_apply] at ran
  rcases cleaned : bundler.clean world with ⟨cause | _, emptied⟩
  · rw [cleaned] at ran
    cases ran
    exact confined_of_eq (clean_error rooted cleaned).2
  · rw [cleaned] at ran
    have changed := (clean_ok rooted cleaned).1
    dsimp only at ran
    rw [Action.bind_apply] at ran
    rcases wrote : assets.forM Asset.write emptied with ⟨ending, filled⟩
    rcases Asset.writeAll_leads absolute wrote with ⟨written, made, found, above, overlay⟩
    have kept : final.tree = filled.tree := by
      rw [wrote] at ran
      cases ending with
      | error cause =>
          cases ran
          rfl
      | ok _ =>
          have called := quiet.call .done filled
          dsimp only at ran
          rw [ran] at called
          exact called
    rw [changed, ← kept] at overlay
    rw [← kept] at found
    apply confined_of_overlay clean_of_removes _ _ _ overlay
    · intro removes
      exact outside (clean_of_removes removes)
    · intro asset listed
      exact ⟨paths asset (found asset listed).1, (found asset listed).2⟩
    · intro location listed
      rcases List.mem_flatMap.mp (above listed) with ⟨asset, tried, onTheWay⟩
      exact ⟨asset.path, paths asset tried,
        Asset.exists_steps_of_mem_trail (absolute asset tried) onTheWay⟩

theorem confined_of_run {outcome : Except BuildError BuildResult} (rooted : bundler.Rooted)
    (quiet : bundler.taps.KeepTree) (ran : bundler.run world = (outcome, final)) :
    bundler.Confined world.tree final.tree := by
  have kept := prepare_keepsTree quiet world
  rw [run_eq, Action.bind_apply] at ran
  rcases prepared : bundler.prepare world with ⟨cause | ⟨assets, modules⟩, middle⟩
  · rw [prepared] at ran kept
    cases ran
    exact confined_of_eq kept
  · rw [prepared] at ran kept
    dsimp only at ran kept
    rw [Action.bind_apply] at ran
    have paths : ∀ asset ∈ assets, asset.path ∈ bundler.assetPaths := by
      intro asset listed
      rw [← (prepare_ok prepared).1]
      exact List.mem_map_of_mem listed
    rcases published : bundler.publish assets middle with ⟨ending, last⟩
    have confined := publish_confined rooted quiet (isAbsolute_of_prepare rooted prepared) paths
      (not_holds_of_prepare rooted prepared) published
    rw [kept] at confined
    rw [published] at ran
    cases ending <;>
      · cases ran
        exact confined

/-- The directory of the sources, as a configuration spells it. -/
def spelledContext (config : Config) (workingDirectory : Path) : Path :=
  config.context.elim workingDirectory workingDirectory.join

/-- A run of any configuration, with any taps that change no tree, changes the
tree only where its paths lead, however it ends.  It is refused at once exactly
if it would remove a directory that the sources are in, whatever the paths of
the two directories look like: wherever these lead, that is the place that is
compared. -/
theorem run_confined {registry : LoaderRegistry} {config : Config} {origin begun : World}
    {described : Bundler} (configured : ofConfig registry config origin = (.ok described, begun))
    (taps : Taps) (quiet : taps.KeepTree) {outcome : Except BuildError BuildResult}
    (ran : run { described with taps := taps } world = (outcome, final)) :
    let bundler : Bundler := { described with taps := taps }
    bundler.Confined world.tree final.tree ∧
      ((∃ cause, bundler.guardCleaning world = (.error cause, world)) ↔
        config.output.clean = true ∧
          bundler.outputDirectory.place <+: bundler.context.place) ∧
      (∀ location,
        world.tree.resolve [] (spelledContext config origin.workingPath) = .ok location →
          location = bundler.context.place) ∧
      ∀ location,
        world.tree.resolve [] (bundler.context.join config.output.directory) = .ok location →
          location = bundler.outputDirectory.place := by
  have rooted := (rooted_ofConfig configured).withTaps taps
  rcases ofConfig_ok configured with ⟨rfl, context⟩
  intro bundler
  refine ⟨confined_of_run rooted quiet ran, guardCleaning_iff rooted world, ?_, ?_⟩
  · intro location resolved
    have spelled : bundler.context =
        (spelledContext described.config origin.workingPath).normalize := by
      change described.context = _
      rw [context, Config.contextDirectory, spelledContext]
      cases described.config.context <;> rfl
    rw [spelled]
    apply Path.eq_place_normalize _ resolved
    rw [spelledContext]
    cases described.config.context with
    | none => exact isAbsolute_workingPath origin
    | some directory => exact Path.isAbsolute_join (isAbsolute_workingPath origin) directory
  · intro location resolved
    exact Path.eq_place_normalize (Path.isAbsolute_join rooted.absolute _) resolved

/-- A source, and the output of an earlier build beside it. -/
def besideWorld : World where
  tree := ⟨[(["work"], .directory),
    (["work", "src"], .directory),
    (["work", "src", "index.js"], .file "exports.v = 1;".toUTF8),
    (["work", "out"], .directory),
    (["work", "out", "old.js"], .file "1;".toUTF8)]⟩
  workingDirectory := ["work"]
  journal := []

/-- Directories that are spelled with detours. -/
def winding : Config :=
  { Config.default with
    entries := .single "../work/src/index.js"
    context := some ⟨"src/.."⟩
    output := ⟨⟨"src/../../work/out"⟩, "../out/js/[name].js", true⟩ }

def windingBundler : Bundler :=
  ⟨winding, winding.contextDirectory besideWorld.workingPath, ⟨[]⟩, .none⟩

theorem ofConfig_winding :
    ofConfig .empty winding besideWorld = (.ok windingBundler, besideWorld) :=
  rfl

/-- The old output is removed and a bundle is written, both where the winding
paths lead, and the sources stay. -/
theorem run_confined_winding :
    ∃ result final, windingBundler.run besideWorld = (.ok result, final) ∧
      final.tree.entryAt ["work", "out", "old.js"] = none ∧
      final.tree.hasDirectory ["work", "out", "js"] = true ∧
      windingBundler.Confined besideWorld.tree final.tree ∧
      besideWorld.tree.resolve [] (spelledContext winding besideWorld.workingPath) =
        .ok windingBundler.context.place := by
  have succeeds : (windingBundler.run besideWorld).1.toOption.isSome = true := by
    decide +kernel
  have changes :
      (windingBundler.run besideWorld).2.tree.entryAt ["work", "out", "old.js"] = none ∧
        (windingBundler.run besideWorld).2.tree.hasDirectory ["work", "out", "js"] = true := by
    decide +kernel
  rcases ran : windingBundler.run besideWorld with ⟨cause | result, final⟩
  · rw [ran] at succeeds
    cases succeeds
  · rw [ran] at changes
    have told := run_confined ofConfig_winding .none Taps.keepTree_none ran
    have leads : besideWorld.tree.resolve [] (spelledContext winding besideWorld.workingPath) =
        .ok ["work"] := by
      decide +kernel
    refine ⟨result, final, rfl, changes.1, changes.2, told.1, ?_⟩
    rw [← told.2.2.1 _ leads]
    exact leads

end Bundler

end ScriptBundle
