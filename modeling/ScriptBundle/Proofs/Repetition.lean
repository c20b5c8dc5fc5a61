import ScriptBundle.Proofs.Confinement
import ScriptBundle.Proofs.Course
import ScriptBundle.Proofs.Remaking

/-!
# Runs that are repeated

A run that succeeded can be repeated in the tree that it left: what it asks of
the sources is told by its journal, and so it prepares the same bundles if it is
answered alike; and the bundles can be written where they are, whatever part of
their directories was removed before.  The tree is then as it was.

There is one exception.  If a bundle took the place of the output directory
itself, there is no such directory any more; but something is there, and so the
run that is to remove the directory tries to, and fails.
-/

namespace ScriptBundle

namespace FileTree

variable {tree part whole : FileTree} {start location place : Location}
  {segments : List (List Char)} {path : Path} {workingDirectory : Location}

/-- Whatever is in a tree is in a directory of the tree. -/
def Closed (tree : FileTree) : Prop :=
  ∀ location, (tree.entryAt location).isSome = true → tree.hasDirectory location.dropLast = true

theorem closed_of_entries
    (above : ∀ known ∈ tree.entries, tree.hasDirectory known.1.dropLast = true) : tree.Closed := by
  intro location present
  rw [entryAt] at present
  split at present
  · next root =>
    rw [root]
    exact tree.hasDirectory_root
  · rw [Option.isSome_map] at present
    rcases Option.isSome_iff_exists.mp present with ⟨known, found⟩
    have here : known.1 = location := by simpa using List.find?_some found
    rw [← here]
    exact above known (List.mem_of_find?_eq_some found)

theorem Closed.isSome_of_prefix (closed : tree.Closed) (prefixed : place <+: location)
    (present : (tree.entryAt location).isSome = true) : (tree.entryAt place).isSome = true := by
  rcases prefixed with ⟨rest, rfl⟩
  induction rest using List.reverseRecOn with
  | nil => rwa [List.append_nil] at present
  | append_singleton before name induction =>
      apply induction
      have above := closed _ present
      rw [← List.append_assoc, List.dropLast_concat, hasDirectory_iff] at above
      rw [above]
      rfl

/-- A walk without steps up comes to a place below that where it starts. -/
theorem prefix_of_walk (level : ['.', '.'] ∉ segments)
    (walked : tree.walk start segments = .ok location) : start <+: location := by
  induction segments generalizing start with
  | nil =>
      cases walked
      exact List.prefix_rfl
  | cons segment rest induction =>
      rw [List.mem_cons, not_or] at level
      rcases walk_cons.mp walked with ⟨next, stepped, further⟩
      refine List.IsPrefix.trans ?_ (induction level.2 further)
      rw [step_eq stepped, Path.Component.ofSegment, if_neg (Ne.symm level.1)]
      split
      · exact List.prefix_rfl
      · exact List.prefix_append _ _

/-- A walk without steps up can be made in a closed part of a tree that has the
place where it ends. -/
theorem PartOf.walk_of_closed (partOf : part.PartOf whole) (closed : part.Closed)
    (level : ['.', '.'] ∉ segments) (walked : whole.walk start segments = .ok location)
    (present : (part.entryAt location).isSome = true) :
    part.walk start segments = .ok location := by
  induction segments generalizing start with
  | nil => exact walked
  | cons segment rest induction =>
      have below := prefix_of_walk level walked
      rcases walk_cons.mp walked with ⟨next, stepped, further⟩
      have levelRest : ['.', '.'] ∉ rest := fun listed => level (List.mem_cons_of_mem _ listed)
      refine walk_cons.mpr ⟨next, step_eq_ok_iff.mpr ⟨?_, ?_⟩, induction levelRest further⟩
      · exact partOf.enter (closed.isSome_of_prefix below present) (step_eq_ok_iff.mp stepped).1
      · exact closed.isSome_of_prefix (prefix_of_walk levelRest further) present

/-- A normalized absolute path makes no step up. -/
theorem level_of_normal (absolute : path.isAbsolute = true) (normal : path.normalize = path) :
    ['.', '.'] ∉ path.tail := by
  intro listed
  have isStep : Path.Component.up ∈ path.components := by
    rw [Path.components_of_isAbsolute absolute, Path.steps,
      Path.segmentsOf_of_isAbsolute absolute]
    apply List.mem_cons_of_mem
    refine List.mem_map.mpr ⟨['.', '.'], ?_, rfl⟩
    exact List.mem_filter.mpr ⟨List.mem_cons_of_mem _ listed, by decide⟩
  rw [Path.components_eq_place absolute normal] at isStep
  simp at isStep

theorem exists?_iff :
    tree.exists? workingDirectory path = true ↔
      ∃ location, tree.resolve workingDirectory path = .ok location ∧
        (tree.entryAt location).isSome = true := by
  rw [exists?, lookup]
  cases tree.resolve workingDirectory path with
  | error cause => simp [bind, Except.bind]
  | ok location =>
      cases held : tree.entryAt location <;> simp [bind, Except.bind, held, pure, Except.pure]

/-- What a part of a tree has at the end of a path is found by the path there,
if it is found by it in the whole, and no step of the path leads up. -/
theorem PartOf.exists?_of_closed (partOf : part.PartOf whole) (closed : part.Closed)
    (absolute : path.isAbsolute = true) (normal : path.normalize = path)
    (found : whole.exists? workingDirectory path = true)
    (present : (part.entryAt path.place).isSome = true) :
    part.exists? workingDirectory path = true := by
  rcases exists?_iff.mp found with ⟨location, resolved, -⟩
  rcases (resolve_iff_of_isAbsolute absolute).mp resolved with ⟨isText, walked⟩
  have here := eq_place_of_walk absolute walked
  subst here
  refine exists?_iff.mpr ⟨path.place, ?_, present⟩
  refine (resolve_iff_of_isAbsolute absolute).mpr ⟨isText, ?_⟩
  exact partOf.walk_of_closed closed (level_of_normal absolute normal) walked present

/-- What is left when a directory is removed is a part of the tree. -/
theorem partOf_removeBelow (tree : FileTree) (place : Location) :
    (tree.removeBelow place).PartOf tree := by
  have kept {location : Location} {entry : Entry}
      (held : (tree.removeBelow place).entryAt location = some entry) :
      tree.entryAt location = some entry := by
    by_cases root : location = []
    · subst root
      rwa [entryAt_root] at held ⊢
    · rw [entryAt_removeBelow tree place root] at held
      split at held
      · cases held
      · exact held
  exact ⟨fun location held => kept held, fun location content held => ⟨content, kept held⟩⟩

theorem Keeps.partOf {places : List Location} (keeps : Keeps places part whole) :
    part.PartOf whole :=
  ⟨keeps.directory, keeps.written⟩

/-- A directory that a path leads to can be removed. -/
theorem removeDirectory_of_resolve (resolved : tree.resolve workingDirectory path = .ok location)
    (directory : tree.hasDirectory location = true) :
    tree.removeDirectory workingDirectory path = .ok (tree.removeBelow location) := by
  simp [removeDirectory, resolved, directory, bind, Except.bind, pure, Except.pure]

end FileTree

namespace Action

variable {Cause Result Next : Type} {action : Action Cause Result}
  {next : Result → Action Cause Next}

/-- An action that is told by its events wherever it starts. -/
def Told (action : Action Cause Result) : Prop :=
  ∀ world, ∃ events, Tells action world events

theorem Inquires.told {effects : List Effect} (inquires : Inquires effects action) :
    Told action := by
  intro world
  rcases inquires world with ⟨events, -, tells⟩
  exact ⟨events, tells⟩

theorem Told.bind (first : Told action) (second : ∀ result, Told (next result)) :
    Told (action >>= next) := by
  intro world
  rcases first world with ⟨events, tells⟩
  cases ended : (action world).1 with
  | error cause => exact ⟨events, tells.bind_error ended⟩
  | ok result =>
      rcases second result (world.recordAll events) with ⟨more, later⟩
      exact ⟨events ++ more, tells.bind_ok ended later⟩

end Action

/-- Taps that only note events always succeed, and note the same. -/
theorem Taps.callAll_notes {called : List Tap} (hook : Hook) (notes : ∀ tap ∈ called, tap.Notes) :
    ∃ events, ∀ world, called.forM (callTap hook) world = (.ok (), world.recordAll events) := by
  induction called with
  | nil =>
      refine ⟨[], ?_⟩
      intro world
      rw [world.recordAll_nil]
      rfl
  | cons tap rest induction =>
      rcases List.forall_mem_cons.mp notes with ⟨⟨event, shape⟩, others⟩
      rcases induction others with ⟨events, later⟩
      refine ⟨.callingTap hook tap.name :: event :: events, ?_⟩
      intro world
      have first : callTap hook tap world =
          (.ok (), (world.record (.callingTap hook tap.name)).record event) := by
        rw [callTap, shape]
        rfl
      change (callTap hook tap >>= fun _ => rest.forM (callTap hook)) world = _
      rw [Action.bind_apply, first]
      dsimp only
      rw [later]
      simp [World.record, World.recordAll]

theorem Taps.call_notes {taps : Taps} (notes : taps.All Tap.Notes) (hook : Hook) :
    ∃ events, ∀ world, taps.call hook world = (.ok (), world.recordAll events) :=
  callAll_notes hook (notes hook)

theorem Taps.call_told {taps : Taps} (notes : taps.All Tap.Notes) (hook : Hook) :
    Action.Told (taps.call hook) := by
  intro world
  rcases call_notes notes hook with ⟨events, called⟩
  refine ⟨events, by rw [called], ?_⟩
  intro other _
  rw [called, called]

namespace Bundler

variable {bundler : Bundler} {world begun again final : World} {assets : List Asset}
  {registry : LoaderRegistry} {config : Config}

/-! ## Preparing again -/

/-- Preparing bundles only asks about files, if the taps only note events. -/
theorem prepare_told (notes : bundler.taps.All Tap.Notes) : Action.Told bundler.prepare := by
  have guarded : Action.Told bundler.guardCleaning := by
    rw [guardCleaning]
    split
    · exact (Action.Inquires.throw _).told
    · exact (Action.Inquires.pure _).told
  have built : Action.Told bundler.buildModules := by
    intro start
    rcases bundler.buildModules_told start with ⟨events, -, tells, -⟩
    exact ⟨events, tells⟩
  have gathered : Action.Told bundler.gather :=
    guarded.bind fun _ => (Taps.call_told notes .run).bind fun _ => built
  refine gathered.bind fun gathering => ?_
  refine (Action.Inquires.foldlM bundler.addAsset_inquires _ []).told.bind fun rendered => ?_
  exact (Taps.call_told notes .emit).bind fun _ => (Action.Inquires.pure _).told

/-- The build that a configuration describes, for sources in a directory. -/
def describe (registry : LoaderRegistry) (config : Config) (context : Path) : Build Bundler := do
  let pipeline ← (Pipeline.ofRules registry config.rules : Except BuildError Pipeline)
  let plugins ← (config.plugins.mapM Plugin.named : Except BuildError (List Plugin))
  let taps ← applyPlugins plugins .none
  pure ⟨config, context, pipeline, taps⟩

/-- Only the working directory of a world tells what a configuration describes. -/
theorem ofConfig_apply (registry : LoaderRegistry) (config : Config) (world : World) :
    ofConfig registry config world =
      describe registry config (config.contextDirectory world.workingPath) world := by
  rw [ofConfig, Action.bind_apply, Action.get_apply]
  rfl

theorem describe_told (registry : LoaderRegistry) (config : Config) (context : Path) :
    Action.Told (describe registry config context) := by
  have lifted {Result : Type} (result : Except BuildError Result) :
      Action.Told (liftM result : Build Result) := by
    cases result with
    | ok value => exact (Action.Inquires.pure value).told
    | error cause => exact (Action.Inquires.throw cause).told
  have applied (plugins : List Plugin) (taps : Taps) : Action.Told (applyPlugins plugins taps) := by
    refine (Action.Inquires.foldlM ?_ plugins taps).told
    intro attached plugin
    exact .after_record rfl (.pure _)
  exact (lifted _).bind fun _ => (lifted _).bind fun plugins =>
    (applied plugins .none).bind fun _ => (Action.Inquires.pure _).told

/-- A configuration describes the same build wherever the working directory is
the same. -/
theorem ofConfig_again (configured : ofConfig registry config world = (.ok bundler, begun)) :
    ∃ events, begun = world.recordAll events ∧ ∀ other : World,
      other.workingDirectory = world.workingDirectory → world.AnswersAlike other events →
        ofConfig registry config other = (.ok bundler, other.recordAll events) := by
  rw [ofConfig_apply] at configured
  rcases describe_told registry config (config.contextDirectory world.workingPath) world with
    ⟨events, tells⟩
  rcases tells.of_eq configured with ⟨ended, repeated⟩
  refine ⟨events, ended, ?_⟩
  intro other sameDirectory alike
  have samePath : other.workingPath = world.workingPath := by
    rw [World.workingPath, World.workingPath, sameDirectory]
  rw [ofConfig_apply, samePath]
  exact repeated other alike

/-- Something is at the place of the output directory, or below it, only if the
output directory is to be removed. -/
theorem absent_of_not_removes {part whole : FileTree} {location : Location}
    (rooted : bundler.Rooted) (closed : part.Closed) (partOf : part.PartOf whole)
    (kept : bundler.removes part = false) (removed : bundler.removes whole = true)
    (inside : bundler.outputDirectory.place <+: location) : part.entryAt location = none := by
  rw [removes, Bool.and_eq_true_iff] at removed
  rw [removes, removed.1, Bool.true_and] at kept
  rw [← Option.not_isSome_iff_eq_none]
  intro present
  have found := partOf.exists?_of_closed closed rooted.isAbsolute_outputDirectory
    (Path.normalize_normalize _) removed.2 (closed.isSome_of_prefix inside present)
  rw [kept] at found
  cases found

/-- What was there before bundles were written is not in the output directory, if
this is to be removed afterwards. -/
theorem Leaves.absent_of_removes {start after : FileTree} {made : List Location}
    {location : Location} (rooted : bundler.Rooted) (closed : start.Closed)
    (leaves : bundler.Leaves (bundler.removes start) assets assets made start after)
    (removed : bundler.removes after = true) (inside : bundler.outputDirectory.place <+: location)
    (below : location ≠ []) :
    (bundler.cleared (bundler.removes start) start).entryAt location = none := by
  rw [bundler.entryAt_cleared _ start below]
  split
  · rfl
  · next outside =>
    have kept : bundler.removes start = false := by
      rw [Bool.eq_false_iff]
      exact fun gone => outside ⟨gone, inside⟩
    have partOf := leaves.overlay.keeps.partOf
    rw [kept] at partOf
    exact absent_of_not_removes rooted closed partOf kept removed inside

/-- After bundles were written the output directory that is to be removed is a
directory, if no bundle took its place. -/
theorem Leaves.hasDirectory_of_removes {start after : FileTree} {made : List Location}
    (rooted : bundler.Rooted) (closed : start.Closed)
    (leaves : bundler.Leaves (bundler.removes start) assets assets made start after)
    (apart : ∀ asset ∈ assets, asset.path.place ≠ bundler.outputDirectory.place)
    (removed : bundler.removes after = true) :
    after.hasDirectory bundler.outputDirectory.place = true := by
  by_cases root : bundler.outputDirectory.place = []
  · rw [root]
    exact after.hasDirectory_root
  rcases FileTree.exists?_iff.mp (Bool.and_eq_true_iff.mp removed).2 with
    ⟨location, resolved, present⟩
  have walked := ((FileTree.resolve_iff_of_isAbsolute rooted.isAbsolute_outputDirectory).mp
    resolved).2
  rw [FileTree.eq_place_of_walk rooted.isAbsolute_outputDirectory walked] at present
  have unwritten : Asset.lastAt bundler.outputDirectory.place assets = none := by
    cases last : Asset.lastAt bundler.outputDirectory.place assets with
    | none => rfl
    | some asset =>
        rcases Asset.mem_of_lastAt last with ⟨listed, here⟩
        exact absurd here (apart asset listed)
  rw [leaves.entryAt_eq, unwritten] at present
  rw [FileTree.hasDirectory_iff, leaves.entryAt_eq, unwritten]
  dsimp only at present ⊢
  split
  · rfl
  · next old =>
    rw [if_neg old, leaves.absent_of_removes rooted closed removed List.prefix_rfl root] at present
    cases present

/-- Bundles that are written again leave the tree as it was. -/
theorem Leaves.entryAt_again {start after last : FileTree} {made more : List Location}
    (rooted : bundler.Rooted) (closed : start.Closed)
    (absolute : ∀ asset ∈ assets, asset.path.isAbsolute = true)
    (leaves : bundler.Leaves (bundler.removes start) assets assets made start after)
    (later : bundler.Leaves (bundler.removes after) assets assets more after last)
    (found : ∀ asset ∈ assets, last.LeadsToFile [] asset.path asset.path.place)
    (partOf : last.PartOf after) (location : Location) :
    last.entryAt location = after.entryAt location := by
  by_cases root : location = []
  · rw [root, FileTree.entryAt_root, FileTree.entryAt_root]
  have before := leaves.entryAt_eq location
  have now := later.entryAt_eq location
  cases written : Asset.lastAt location assets with
  | some asset =>
      rw [written] at before now
      exact now.trans before.symm
  | none =>
      rw [written] at before now
      dsimp only at before now
      by_cases remade : location ∈ more
      · rw [if_pos remade] at now
        rw [now, partOf.directory location now]
      · rw [if_neg remade, bundler.entryAt_cleared _ after root] at now
        split at now
        · next gone =>
          -- what was removed and is not there again was not there
          rw [now, before]
          split
          · next isMade =>
            rcases List.mem_flatMap.mp (leaves.above isMade) with ⟨asset, listed, onTheWay⟩
            have there := Asset.hasDirectory_of_mem_trail (absolute asset listed)
              (found asset listed) location onTheWay
            rw [FileTree.hasDirectory_iff, now] at there
            cases there
          · exact (leaves.absent_of_removes rooted closed gone.1 gone.2 root).symm
        · exact now

theorem cleared_partOf (bundler : Bundler) (removed : Bool) (tree : FileTree) :
    (bundler.cleared removed tree).PartOf tree := by
  rw [cleared]
  split
  · exact FileTree.partOf_removeBelow tree _
  · exact .refl tree

theorem clean_again (rooted : bundler.Rooted)
    (directory : bundler.removes world.tree = true →
      world.tree.hasDirectory bundler.outputDirectory.place = true) :
    ∃ emptied, bundler.clean world = (.ok (), emptied) ∧
      emptied.tree = bundler.cleared (bundler.removes world.tree) world.tree := by
  rw [clean_apply rooted]
  split
  · next removed =>
    rcases FileTree.exists?_iff.mp (Bool.and_eq_true_iff.mp removed).2 with
      ⟨location, resolved, -⟩
    have walked := ((FileTree.resolve_iff_of_isAbsolute rooted.isAbsolute_outputDirectory).mp
      resolved).2
    rw [FileTree.eq_place_of_walk rooted.isAbsolute_outputDirectory walked,
      FileTree.resolve_of_isAbsolute rooted.isAbsolute_outputDirectory _ []
      world.workingDirectory] at resolved
    have emptied := FileTree.removeDirectory_of_resolve resolved (directory removed)
    refine ⟨{ world.record (.cleaning bundler.outputDirectory) with
      tree := world.tree.removeBelow bundler.outputDirectory.place }, ?_, ?_⟩
    · rw [Build.removeDirectory_apply]
      simp only [World.record_tree, World.record_workingDirectory, emptied]
    · rw [cleared, if_pos removed]
  · next kept =>
    refine ⟨world, rfl, ?_⟩
    rw [cleared, if_neg kept]

/-- Bundles that were published can be published again in the tree that holds
them, unless one of them took the place of the output directory; and the tree
is then as it was. -/
theorem publish_again (rooted : bundler.Rooted) (notes : bundler.taps.All Tap.Notes)
    (closed : world.tree.Closed) (absolute : ∀ asset ∈ assets, asset.path.isAbsolute = true)
    (published : bundler.publish assets world = (.ok (), final))
    (apart : bundler.config.output.clean = true →
      ∀ asset ∈ assets, asset.path.place ≠ bundler.outputDirectory.place)
    (same : again.tree = final.tree) :
    ∃ last, bundler.publish assets again = (.ok (), last) ∧
      ∀ location, last.tree.entryAt location = final.tree.entryAt location := by
  rcases publish_ok notes.keepTree published with ⟨_, filled, wrote, kept⟩
  have found := (Asset.writeAll_found absolute wrote []).1
  rw [← kept, ← same] at found
  rcases publish_leaves rooted notes.keepTree absolute published with
    ⟨_, _, _, made, ends, leaves⟩
  cases ends
  rw [← same] at leaves ⊢
  have directory (removed : bundler.removes again.tree = true) :
      again.tree.hasDirectory bundler.outputDirectory.place = true :=
    leaves.hasDirectory_of_removes rooted closed (apart (clean_of_removes removed)) removed
  rcases clean_again rooted directory with ⟨emptied, cleaned, changed⟩
  have partOf := bundler.cleared_partOf (bundler.removes again.tree) again.tree
  rw [← changed] at partOf
  rcases Asset.writeAll_again absolute found partOf with ⟨refilled, rewrote, refilledPart⟩
  rcases Taps.call_notes notes .done with ⟨events, called⟩
  have republished : bundler.publish assets again = (.ok (), refilled.recordAll events) := by
    rw [publish, Action.bind_apply, cleaned]
    dsimp only
    rw [Action.bind_apply, rewrote]
    exact called refilled
  rcases publish_leaves rooted notes.keepTree absolute republished with
    ⟨_, _, _, more, moreEnds, later⟩
  cases moreEnds
  refine ⟨refilled.recordAll events, republished, ?_⟩
  exact leaves.entryAt_again rooted closed absolute later
    (Asset.writeAll_found absolute rewrote []).1 refilledPart

/-- A bundle goes to the place of the output directory, which is to be removed. -/
def ReplacesOutput (bundler : Bundler) : Prop :=
  bundler.config.output.clean = true ∧
    ∃ path ∈ bundler.assetPaths, path.normalize = bundler.outputDirectory

instance (bundler : Bundler) : Decidable bundler.ReplacesOutput :=
  inferInstanceAs (Decidable (_ ∧ _))

/-- What took the place of the output directory cannot be removed. -/
theorem publish_blocked (rooted : bundler.Rooted) (quiet : bundler.taps.KeepTree)
    (absolute : ∀ asset ∈ assets, asset.path.isAbsolute = true)
    (published : bundler.publish assets world = (.ok (), final))
    (clean : bundler.config.output.clean = true) {asset : Asset} (listed : asset ∈ assets)
    (replaces : asset.path.normalize = bundler.outputDirectory)
    (same : again.tree = final.tree) :
    bundler.publish assets again =
      (.error (.write bundler.outputDirectory .notDirectory),
        again.record (.cleaning bundler.outputDirectory)) := by
  rcases publish_ok quiet published with ⟨_, filled, wrote, kept⟩
  have leads := ((Asset.writeAll_found absolute wrote []).1 asset listed).normalize
  rw [← kept, ← same, replaces] at leads
  rcases leads.isFile with ⟨content, isFile⟩
  have there : (again.tree.entryAt asset.path.place).isSome = true := by
    rw [isFile]
    rfl
  have removed : bundler.removes again.tree = true :=
    Bool.and_eq_true_iff.mpr ⟨clean, FileTree.exists?_iff.mpr ⟨_, leads.resolved, there⟩⟩
  have resolved := leads.resolved
  rw [FileTree.resolve_of_isAbsolute rooted.isAbsolute_outputDirectory _ []
    again.workingDirectory] at resolved
  have refused : again.tree.removeDirectory again.workingDirectory bundler.outputDirectory =
      .error .notDirectory := by
    simp [FileTree.removeDirectory, resolved, FileTree.hasDirectory, isFile, bind, Except.bind]
  have cleaned : bundler.clean again = (.error (.write bundler.outputDirectory .notDirectory),
      again.record (.cleaning bundler.outputDirectory)) := by
    rw [clean_apply rooted, if_pos removed, Build.removeDirectory_apply]
    simp only [World.record_tree, World.record_workingDirectory, refused]
  rw [publish, Action.bind_apply, cleaned]

/-! ## Running again -/

/-- What is noted while bundles are published comes after what was noted. -/
theorem publish_journal (rooted : bundler.Rooted) (notes : bundler.taps.All Tap.Notes)
    (published : bundler.publish assets world = (.ok (), final)) :
    ∃ written, final.journal = world.journal ++ written := by
  rcases Action.bind_ok published with ⟨_, emptied, cleaned, later⟩
  rcases Action.bind_ok later with ⟨_, filled, wrote, called⟩
  have clearing := clean_shows rooted world
  rw [cleaned] at clearing
  rcases clearing.trans (Asset.writeAll_shows wrote) with ⟨written, journal, -⟩
  rcases Taps.call_notes notes .done with ⟨events, calls⟩
  rw [calls] at called
  cases called
  refine ⟨written ++ events, ?_⟩
  rw [World.recordAll, journal, List.append_assoc]

/-- A run is decided by what publishing the prepared bundles comes to. -/
theorem run_of_prepare {modules : ModuleTable} {ready : World}
    (prepared : bundler.prepare world = (.ok (assets, modules), ready)) :
    bundler.run world =
      ((bundler.publish assets ready).1.map fun _ => ⟨assets, assets.map Asset.path, modules⟩,
        (bundler.publish assets ready).2) := by
  rw [run_eq, Action.bind_apply, prepared]
  dsimp only
  rw [Action.bind_apply]
  rcases bundler.publish assets ready with ⟨_ | _, last⟩ <;> rfl

/-- A run of any configuration that succeeded, in any closed tree, can be
repeated in the tree that it left if what it asked of the sources is answered
as before: it comes to the same result and leaves everything as it was.  The
only exception is a build one of whose bundles took the place of the output
directory that is to be removed; it fails, and changes nothing. -/
theorem run_repeats_iff {later : World} {result : BuildResult}
    (configured : ofConfig registry config world = (.ok bundler, begun))
    (closed : world.tree.Closed) (ran : bundler.run begun = (.ok result, final))
    (tree : later.tree = final.tree)
    (workingDirectory : later.workingDirectory = world.workingDirectory)
    (alike : world.AnswersAlike later (final.journal.drop world.journal.length)) :
    ∃ again, ofConfig registry config later = (.ok bundler, again) ∧
      ((∃ last, bundler.run again = (.ok result, last) ∧
          ∀ location, last.tree.entryAt location = final.tree.entryAt location) ↔
        ¬ bundler.ReplacesOutput) ∧
      (bundler.ReplacesOutput →
        ∃ last, bundler.run again = (.error (.write bundler.outputDirectory .notDirectory), last) ∧
          last.tree = final.tree) := by
  have notes := taps_ofConfig configured
  have rooted := rooted_ofConfig configured
  rcases run_eq_ok ran with ⟨ready, prepared, published⟩
  have absolute := isAbsolute_of_prepare rooted prepared
  have paths := (prepare_ok prepared).1
  -- what was noted, part by part
  rcases ofConfig_again configured with ⟨described, rfl, describedAgain⟩
  rcases prepare_told notes (world.recordAll described) with ⟨asked, tells⟩
  rcases tells.of_eq prepared with ⟨rfl, preparedAgain⟩
  rcases publish_journal rooted notes published with ⟨written, journal⟩
  have noted : final.journal.drop world.journal.length = described ++ (asked ++ written) := by
    rw [journal]
    simp [World.recordAll]
  rw [noted, World.answersAlike_append, World.answersAlike_append] at alike
  have again := describedAgain later workingDirectory alike.1
  have ready := preparedAgain (later.recordAll described)
    (alike.2.1.congr (world.recordAll_sameFiles described) (later.recordAll_sameFiles described))
  have ended := run_of_prepare prepared
  rw [published, ran] at ended
  have isResult := congrArg Prod.fst ended
  have readyClosed : ((world.recordAll described).recordAll asked).tree.Closed := closed
  have readyTree : ((later.recordAll described).recordAll asked).tree = final.tree := tree
  refine ⟨later.recordAll described, again, ?_⟩
  rw [run_of_prepare ready]
  have blocked : bundler.ReplacesOutput → bundler.publish result.assets
      ((later.recordAll described).recordAll asked) =
        (.error (.write bundler.outputDirectory .notDirectory),
          ((later.recordAll described).recordAll asked).record
            (.cleaning bundler.outputDirectory)) := by
    rintro ⟨clean, path, listed, replaces⟩
    rw [← paths] at listed
    rcases List.mem_map.mp listed with ⟨asset, isAsset, rfl⟩
    exact publish_blocked rooted notes.keepTree absolute published clean isAsset replaces readyTree
  refine ⟨⟨?_, ?_⟩, ?_⟩
  · rintro ⟨last, succeeded, -⟩ replaces
    rw [blocked replaces] at succeeded
    cases succeeded
  · intro kept
    have apart : bundler.config.output.clean = true →
        ∀ asset ∈ result.assets, asset.path.place ≠ bundler.outputDirectory.place := by
      intro clean asset listed here
      apply kept
      refine ⟨clean, asset.path, paths ▸ List.mem_map_of_mem listed, ?_⟩
      rw [FileTree.normalize_of_isAbsolute (absolute asset listed), here,
        ← FileTree.normalize_of_isAbsolute rooted.isAbsolute_outputDirectory]
      exact Path.normalize_normalize _
    rcases publish_again rooted notes readyClosed absolute published apart readyTree with
      ⟨last, republished, same⟩
    refine ⟨last, ?_, same⟩
    rw [republished]
    exact congrArg (·, last) isResult.symm
  · intro replaces
    rw [blocked replaces]
    exact ⟨_, rfl, readyTree⟩

theorem closed_besideWorld : besideWorld.tree.Closed :=
  FileTree.closed_of_entries (by decide +kernel)

/-- A build with winding paths, which removes its output first, comes to the same
when it is run again. -/
theorem run_repeats_iff_winding :
    ∃ result final last, windingBundler.run besideWorld = (.ok result, final) ∧
      windingBundler.run { final with journal := [] } = (.ok result, last) ∧
      ∀ location, last.tree.entryAt location = final.tree.entryAt location := by
  have succeeds : (windingBundler.run besideWorld).1.toOption.isSome = true := by
    decide +kernel
  have alike : besideWorld.AnswersAlike
      { (windingBundler.run besideWorld).2 with journal := [] }
      ((windingBundler.run besideWorld).2.journal.drop 0) := by
    decide +kernel
  have stays : (windingBundler.run besideWorld).2.workingDirectory = ["work"] := by
    decide +kernel
  rcases ran : windingBundler.run besideWorld with ⟨cause | result, final⟩
  · rw [ran] at succeeds
    cases succeeds
  · rw [ran] at alike stays
    have kept : ¬ windingBundler.ReplacesOutput := by
      decide +kernel
    rcases final with ⟨tree, workingDirectory, journal⟩
    have told := run_repeats_iff ofConfig_winding closed_besideWorld ran
      (show (World.mk tree workingDirectory []).tree = tree from rfl) stays alike
    cases stays
    rcases told with ⟨again, described, repeats, -⟩
    have begins : ofConfig .empty winding ⟨tree, ["work"], []⟩ =
        (.ok windingBundler, ⟨tree, ["work"], []⟩) := rfl
    rw [begins] at described
    rcases repeats.mpr kept with ⟨last, succeeded, same⟩
    rw [← (Prod.mk.inj described).2] at succeeded
    exact ⟨result, _, last, rfl, succeeded, same⟩

/-- A build whose bundle goes to the place of the output directory. -/
def replacing : Config :=
  { Config.default with
    entries := .single "./src/index.js"
    output := ⟨⟨"out"⟩, "/work/out", true⟩ }

def replacingBundler : Bundler :=
  ⟨replacing, replacing.contextDirectory besideWorld.workingPath, ⟨[]⟩, .none⟩

/-- The first run of the build succeeds.  The second is answered alike, and is
described by the same configuration, but it cannot remove the bundle that it
takes for a directory. -/
theorem replaced_output_blocks :
    ofConfig .empty replacing besideWorld = (.ok replacingBundler, besideWorld) ∧
      ∃ result final last, replacingBundler.run besideWorld = (.ok result, final) ∧
        besideWorld.AnswersAlike { final with journal := [] } final.journal ∧
        ofConfig .empty replacing { final with journal := [] } =
          (.ok replacingBundler, { final with journal := [] }) ∧
        replacingBundler.run { final with journal := [] } =
          (.error (.write ⟨"/work/out"⟩ .notDirectory), last) := by
  refine ⟨rfl, ?_⟩
  have succeeds : (replacingBundler.run besideWorld).1.toOption.isSome = true := by
    decide +kernel
  have alike : besideWorld.AnswersAlike
      { (replacingBundler.run besideWorld).2 with journal := [] }
      (replacingBundler.run besideWorld).2.journal := by
    decide +kernel
  have stays : (replacingBundler.run besideWorld).2.workingDirectory = ["work"] := by
    decide +kernel
  have fails : (replacingBundler.run
      { (replacingBundler.run besideWorld).2 with journal := [] }).1.map (fun _ => ()) =
        .error (.write ⟨"/work/out"⟩ .notDirectory) := by
    decide +kernel
  rcases ran : replacingBundler.run besideWorld with ⟨cause | result, final⟩
  · rw [ran] at succeeds
    cases succeeds
  · rw [ran] at alike fails stays
    rcases final with ⟨tree, workingDirectory, journal⟩
    cases stays
    rcases again : replacingBundler.run ⟨tree, ["work"], []⟩ with ⟨cause | other, last⟩
    · rw [again] at fails
      cases fails
      exact ⟨result, _, last, rfl, alike, rfl, again⟩
    · rw [again] at fails
      cases fails

end Bundler

end ScriptBundle
