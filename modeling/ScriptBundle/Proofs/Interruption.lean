import ScriptBundle.Proofs.Publication

/-!
# Runs that end while they publish

Nothing is undone when the output directory cannot be removed, a directory
cannot be made or a bundle cannot be written: what was done before stays.  So a
run that ends this way leaves the tree as it was exactly if all that it did put
back what was there.
-/

namespace ScriptBundle.Bundler

variable {bundler : Bundler} {world final : World} {removed : Bool} {written tried : List Asset}
  {made : List Location} {start later : FileTree}

/-- What publishing did to a tree puts back what was there: the bundles it
wrote, the directories it made, and all that the output directory held if it
removed that. -/
structure Restores (bundler : Bundler) (removed : Bool) (written : List Asset)
    (made : List Location) (start : FileTree) : Prop where
  /-- A bundle that was written, and not replaced by another, was there. -/
  bundles : ∀ location asset, Asset.lastAt location written = some asset →
    start.entryAt location = some (.file asset.text.toUTF8)
  directories : ∀ location ∈ made, start.entryAt location = some .directory
  output : removed = true → ∀ location, bundler.outputDirectory.place <+: location →
    start.entryAt location ≠ none →
      location ∈ made ∨ (Asset.lastAt location written).isSome = true

/-- Publishing leaves every place as it was exactly if it puts back what was
there. -/
theorem Leaves.entryAt_eq_iff (leaves : bundler.Leaves removed written tried made start later)
    (below : removed = true → bundler.outputDirectory.place ≠ []) :
    (∀ location, later.entryAt location = start.entryAt location) ↔
      bundler.Restores removed written made start := by
  constructor
  · intro same
    constructor
    · intro location asset last
      rw [← same location, leaves.entryAt_eq, last]
    · intro location listed
      rw [← same location]
      exact leaves.overlay.directory_of_made listed
    · intro gone location inside held
      have deeper : location ≠ [] := by
        rintro rfl
        exact below gone (List.prefix_nil.mp inside)
      by_contra missing
      rw [not_or] at missing
      rcases missing with ⟨notMade, notWritten⟩
      rw [Bool.not_eq_true, Option.isSome_eq_false_iff, Option.isNone_iff_eq_none] at notWritten
      apply held
      rw [← same location, leaves.entryAt_eq, notWritten]
      dsimp only
      rw [if_neg notMade, bundler.entryAt_cleared removed start deeper, if_pos ⟨gone, inside⟩]
  · intro restores location
    rw [leaves.entryAt_eq]
    cases last : Asset.lastAt location written with
    | some asset => exact (restores.bundles location asset last).symm
    | none =>
        dsimp only
        split
        · next listed => exact (restores.directories location listed).symm
        · next notMade =>
          by_cases root : location = []
          · rw [root, FileTree.entryAt_root, FileTree.entryAt_root]
          · rw [bundler.entryAt_cleared removed start root]
            split
            · next gone =>
              by_contra held
              rcases restores.output gone.1 location gone.2 (Ne.symm held) with listed | isWritten
              · exact notMade listed
              · rw [last] at isWritten
                cases isWritten
            · rfl

/-- A run prepared bundles, and ended while it published them: before that it
removed the output directory or not, wrote some of the bundles, and made some
directories. -/
def Interrupted (bundler : Bundler) (world : World) (cause : BuildError) (removed : Bool)
    (written : List Asset) (made : List Location) (later : FileTree) : Prop :=
  ∃ assets modules middle tried, bundler.prepare world = (.ok (assets, modules), middle) ∧
    bundler.Ends assets world.tree (.error cause) removed written tried ∧
    bundler.Leaves removed written tried made world.tree later

/-- What a run leaves, of any configuration with any taps that change no tree,
when it ends because the output directory cannot be removed, a directory cannot
be made or a bundle cannot be written.  The tree is as it was exactly if what
was done before that put back what was there. -/
theorem run_untouched_iff {registry : LoaderRegistry} {config : Config} {origin begun : World}
    {described : Bundler} (configured : ofConfig registry config origin = (.ok described, begun))
    (taps : Taps) (quiet : taps.KeepTree) {path : Path} {cause : FileError}
    (failed : run { described with taps := taps } world = (.error (.write path cause), final)) :
    let bundler : Bundler := { described with taps := taps }
    ∃ removed written made,
      bundler.Interrupted world (.write path cause) removed written made final.tree ∧
        ((∀ location, final.tree.entryAt location = world.tree.entryAt location) ↔
          bundler.Restores removed written made world.tree) := by
  have rooted := (rooted_ofConfig configured).withTaps taps
  intro bundler
  rcases run_leaves rooted quiet failed with
    ⟨early, same, refused, -⟩ | ⟨assets, modules, middle, prepared, -, removed, written, tried,
      made, ends, leaves⟩
  · cases same
    have isEarly := bundler.prepare_failsBy world _ final refused
    cases isEarly
  · refine ⟨removed, written, made, ⟨assets, modules, middle, tried, prepared, ends, leaves⟩, ?_⟩
    apply leaves.entryAt_eq_iff
    intro gone
    exact place_outputDirectory_ne_nil rooted prepared (clean_of_removes (ends.removed gone))

/-- Two modules, and the output of an earlier build. -/
def outdatedWorld : World where
  tree := ⟨[(["work"], .directory),
    (["work", "a.js"], .file "exports.v = 1;".toUTF8),
    (["work", "b.js"], .file "exports.v = 2;".toUTF8),
    (["work", "dist"], .directory),
    (["work", "dist", "old.js"], .file "1;".toUTF8)]⟩
  workingDirectory := ["work"]
  journal := []

/-- Two entries, the bundle of the second below that of the first. -/
def nestedConfig : Config :=
  { Config.default with
    entries := .named (.ofPairs [("a", "./a.js"), ("a.js/b", "./b.js")])
    output := { Output.default with clean := true } }

def nestedBundler : Bundler :=
  ⟨nestedConfig, nestedConfig.contextDirectory outdatedWorld.workingPath, ⟨[]⟩, .none⟩

theorem ofConfig_nested :
    ofConfig .empty nestedConfig outdatedWorld = (.ok nestedBundler, outdatedWorld) :=
  rfl

theorem nested_fails :
    (nestedBundler.run outdatedWorld).1.map (fun _ => ()) =
      .error (.write ⟨"/work/dist/a.js"⟩ .alreadyExists) := by
  decide +kernel

theorem nested_loses_output :
    (nestedBundler.run outdatedWorld).2.tree.entryAt ["work", "dist", "old.js"] = none := by
  decide +kernel

/-- What this run did before it failed does not put back what was there. -/
theorem run_untouched_iff_nested :
    ∃ final, nestedBundler.run outdatedWorld =
        (.error (.write ⟨"/work/dist/a.js"⟩ .alreadyExists), final) ∧
      ∃ removed written made,
        nestedBundler.Interrupted outdatedWorld (.write ⟨"/work/dist/a.js"⟩ .alreadyExists) removed
            written made final.tree ∧
          ¬ nestedBundler.Restores removed written made outdatedWorld.tree := by
  have fails := nested_fails
  have loses := nested_loses_output
  rcases ran : nestedBundler.run outdatedWorld with ⟨cause | result, final⟩
  · rw [ran] at fails loses
    cases fails
    rcases run_untouched_iff ofConfig_nested .none Taps.keepTree_none ran with
      ⟨removed, written, made, interrupted, untouched_iff⟩
    refine ⟨final, rfl, removed, written, made, interrupted, ?_⟩
    intro restores
    have kept := untouched_iff.mpr restores ["work", "dist", "old.js"]
    rw [loses] at kept
    cases kept
  · rw [ran] at fails
    cases fails

/-- The old output is gone when the run fails, one bundle is written and the
other is missing. -/
theorem interrupted_run_changes_output :
    ∃ path cause final, nestedBundler.run outdatedWorld = (.error (.write path cause), final) ∧
      outdatedWorld.tree.entryAt ["work", "dist", "old.js"] = some (.file "1;".toUTF8) ∧
      final.tree.entryAt ["work", "dist", "old.js"] = none ∧
      (final.tree.entryAt ["work", "dist", "a.js"]).isSome = true ∧
      final.tree.entryAt ["work", "dist", "a.js", "b.js"] = none := by
  have fails := nested_fails
  have loses := nested_loses_output
  have halfWritten :
      ((nestedBundler.run outdatedWorld).2.tree.entryAt ["work", "dist", "a.js"]).isSome = true ∧
        (nestedBundler.run outdatedWorld).2.tree.entryAt ["work", "dist", "a.js", "b.js"] =
          none := by
    decide +kernel
  have held : outdatedWorld.tree.entryAt ["work", "dist", "old.js"] =
      some (.file "1;".toUTF8) := by
    decide +kernel
  rcases ran : nestedBundler.run outdatedWorld with ⟨cause | result, final⟩
  · rw [ran] at fails loses halfWritten
    cases fails
    exact ⟨_, _, final, rfl, held, loses, halfWritten⟩
  · rw [ran] at fails
    cases fails

end ScriptBundle.Bundler
