import ScriptBundle.Proofs.Confinement

/-!
# What becomes of the sources

A run is refused if it would remove the directory that its entries start from.
Nothing else protects the sources: a file below an output directory that is to
be removed goes with it, and a bundle takes the place of any file that its path
leads to.  All other files survive, however the run ends; and after a run that
succeeds these two are exactly what can have become of a source.
-/

namespace ScriptBundle

/-- An absolute path that leads somewhere leads to something. -/
theorem FileTree.exists?_of_resolve {tree : FileTree} {workingDirectory location : Location}
    {path : Path} (absolute : path.isAbsolute = true)
    (resolved : tree.resolve workingDirectory path = .ok location) :
    tree.exists? workingDirectory path = true := by
  have walked := (resolve_eq_ok_iff.mp resolved).2
  rw [origin, if_pos absolute] at walked
  have present := isSome_of_walk (by rw [entryAt_root]; rfl) walked
  rcases Option.isSome_iff_exists.mp present with ⟨entry, held⟩
  simp [exists?, lookup, resolved, held, bind, Except.bind, pure, Except.pure]

namespace Bundler

variable {bundler : Bundler} {world final : World} {location : Location} {content : ByteArray}

/-- Whether a build may replace what is at a place: a bundle goes there, or the
output directory that is to be removed holds it. -/
def Endangers (bundler : Bundler) (location : Location) : Prop :=
  (∃ path ∈ bundler.assetPaths, path.place = location) ∨
    (bundler.config.output.clean = true ∧ bundler.outputDirectory.place <+: location)

theorem ne_nil_of_file {tree : FileTree} (held : tree.entryAt location = some (.file content)) :
    location ≠ [] := by
  rintro rfl
  rw [FileTree.entryAt_root] at held
  cases held

/-- A file that no bundle was written to is there unless it was removed. -/
theorem Leaves.entryAt_file {removed : Bool} {written tried : List Asset} {made : List Location}
    {start final : FileTree} (leaves : bundler.Leaves removed written tried made start final)
    (held : start.entryAt location = some (.file content))
    (unwritten : Asset.lastAt location written = none) :
    final.entryAt location = some (.file content) ↔
      ¬ (removed = true ∧ bundler.outputDirectory.place <+: location) := by
  have below := ne_nil_of_file held
  have cleared := bundler.entryAt_cleared removed start below
  rw [leaves.entryAt_eq, unwritten]
  dsimp only
  by_cases gone : removed = true ∧ bundler.outputDirectory.place <+: location
  · rw [if_pos gone] at cleared
    rw [cleared]
    refine iff_of_false ?_ (not_not_intro gone)
    split
    · intro impossible
      cases impossible
    · intro impossible
      cases impossible
  · rw [if_neg gone, held] at cleared
    -- directories are made only where nothing is
    have notMade : location ∉ made := by
      intro listed
      rw [leaves.overlay.fresh location listed] at cleared
      cases cleared
    rw [if_neg notMade]
    exact iff_of_true cleared gone

/-- A file that is in no danger is there after every run. -/
theorem run_keepsFile {outcome : Except BuildError BuildResult} (rooted : bundler.Rooted)
    (quiet : bundler.taps.KeepTree) (ran : bundler.run world = (outcome, final))
    (held : world.tree.entryAt location = some (.file content))
    (safe : ¬ bundler.Endangers location) :
    final.tree.entryAt location = some (.file content) := by
  rcases run_leaves rooted quiet ran with
    ⟨cause, -, -, same⟩ | ⟨assets, modules, middle, prepared, -, removed, written, tried, made,
      ends, leaves⟩
  · rw [same]
    exact held
  · have unwritten : Asset.lastAt location written = none := by
      cases last : Asset.lastAt location written with
      | none => rfl
      | some asset =>
          rcases Asset.mem_of_lastAt last with ⟨listed, here⟩
          have named := List.mem_map_of_mem (f := Asset.path) (ends.written_prefix.subset listed)
          rw [(prepare_ok prepared).1] at named
          exact absurd (.inl ⟨asset.path, named, here⟩) safe
    apply (leaves.entryAt_file held unwritten).mpr
    rintro ⟨gone, inside⟩
    exact safe (.inr ⟨clean_of_removes (ends.removed gone), inside⟩)

/-- Whether a file with the given content is still there when bundles were
written: the last bundle that was written to its place has this content, or
none was written there, and it was not removed. -/
def Spares (bundler : Bundler) (assets : List Asset) (location : Location)
    (content : ByteArray) : Prop :=
  match Asset.lastAt location assets with
  | some asset => asset.text.toUTF8 = content
  | none => ¬ (bundler.config.output.clean = true ∧
      bundler.outputDirectory.place <+: location)

/-- An output directory that holds a file exists, so that it is removed if this
is asked for. -/
theorem removes_of_holds {path : Path} (rooted : bundler.Rooted)
    (leads : world.tree.LeadsToFile world.workingDirectory path location)
    (absolute : path.isAbsolute = true) (below : bundler.outputDirectory.place ≠ [])
    (clean : bundler.config.output.clean = true)
    (holds : bundler.outputDirectory.place <+: location) :
    bundler.removes world.tree = true := by
  have normal : bundler.outputDirectory.normalize = bundler.outputDirectory :=
    Path.normalize_normalize _
  have resolved := (leads.of_isAbsolute absolute []).resolve_above absolute
    rooted.isAbsolute_outputDirectory normal below holds
  rw [removes, clean, Bool.true_and]
  exact FileTree.exists?_of_resolve rooted.isAbsolute_outputDirectory resolved

/-- What becomes of the source of a module in a run that succeeds. -/
theorem source_kept_iff {result : BuildResult} (rooted : bundler.Rooted)
    (quiet : bundler.taps.KeepTree) (succeeded : bundler.run world = (.ok result, final))
    {member : Module} (inside : member ∈ result.modules.modules) :
    ∃ location content,
      world.tree.resolve world.workingDirectory member.path = .ok location ∧
        world.tree.entryAt location = some (.file content) ∧
        (final.tree.entryAt location = some (.file content) ↔
          bundler.Spares result.assets location content) := by
  rcases run_ok succeeded with ⟨state, modules, progress, -, -⟩
  rw [← modules] at inside
  rcases progress.built member inside with ⟨known, made⟩
  rcases made.leadsToFile with ⟨location, started⟩
  have absolute := (progress.names_path rooted inside).2
  have sameTree : (bundler.buildWorld world).tree = world.tree := quiet.call .run world
  rw [sameTree] at started
  have leads := started.of_isAbsolute absolute world.workingDirectory
  rcases leads.isFile with ⟨content, held⟩
  refine ⟨location, content, leads.resolved, held, ?_⟩
  rcases run_leaves rooted quiet succeeded with
    ⟨cause, failed, -⟩ | ⟨assets, _, middle, prepared, all, removed, written, tried, _, ends,
      leaves⟩
  · cases failed
  rw [all result rfl, Spares]
  cases ends
  cases last : Asset.lastAt location assets with
  | some asset =>
      rw [leaves.entryAt_eq, last]
      simp
  | none =>
      rw [leaves.entryAt_file held last]
      refine not_congr (and_congr_left fun holds => ?_)
      constructor
      · exact clean_of_removes
      · intro clean
        exact removes_of_holds rooted leads absolute
          (place_outputDirectory_ne_nil rooted prepared clean) clean holds

/-- What becomes of files in a run of any configuration, with any taps that
change no tree.  However the run ends, a file is as it was if no bundle goes to
its place and it is not in an output directory that is to be removed.  After a
run that succeeds the source of a module is as it was exactly if the last bundle
that went to its place, if any, has its content, and if none did it was not in
such a directory.  A run does nothing at all if the directory to be removed holds
the one that its entries start from. -/
theorem run_sparesFiles {registry : LoaderRegistry} {config : Config} {start begun : World}
    {described : Bundler} (configured : ofConfig registry config start = (.ok described, begun))
    (taps : Taps) (quiet : taps.KeepTree) (world : World) :
    let bundler : Bundler := { described with taps := taps }
    (∀ outcome final, bundler.run world = (outcome, final) →
      ∀ location content, world.tree.entryAt location = some (.file content) →
        ¬ bundler.Endangers location → final.tree.entryAt location = some (.file content)) ∧
    (∀ result final, bundler.run world = (.ok result, final) →
      ∀ member ∈ result.modules.modules, ∃ location content,
        world.tree.resolve world.workingDirectory member.path = .ok location ∧
          world.tree.entryAt location = some (.file content) ∧
          (final.tree.entryAt location = some (.file content) ↔
            bundler.Spares result.assets location content)) ∧
    (bundler.config.output.clean = true →
      bundler.outputDirectory.place <+: bundler.context.place →
        ∃ cause, bundler.run world = (.error cause, world)) := by
  have rooted := (rooted_ofConfig configured).withTaps taps
  intro bundler
  refine ⟨?_, ?_, ?_⟩
  · intro outcome final ran location content held safe
    exact run_keepsFile rooted quiet ran held safe
  · intro result final succeeded member inside
    exact source_kept_iff rooted quiet succeeded inside
  · intro clean holds
    rcases (guardCleaning_iff rooted world).mpr ⟨clean, holds⟩ with ⟨cause, refused⟩
    exact ⟨cause, run_of_guardCleaning refused⟩

/-- One source. -/
def sourceWorld : World where
  tree := ⟨[(["work"], .directory),
    (["work", "src"], .directory),
    (["work", "src", "index.js"], .file "exports.v = 1;".toUTF8)]⟩
  workingDirectory := ["work"]
  journal := []

/-- A build of the source, with bundles that go wherever the output tells. -/
def sourceBundler (output : Output) : Bundler where
  config := { Config.default with output := output }
  context := Config.default.contextDirectory sourceWorld.workingPath
  pipeline := ⟨[]⟩
  taps := .none

theorem ofConfig_source (output : Output) :
    ofConfig .empty { Config.default with output := output } sourceWorld =
      (.ok (sourceBundler output), sourceWorld) :=
  rfl

/-- The output directory is removed before the bundles are written. -/
def emptied : Output :=
  { Output.default with clean := true }

/-- A source beside the output directory survives the removal of that. -/
theorem run_sparesFiles_beside :
    ∃ result final, (sourceBundler emptied).run sourceWorld = (.ok result, final) ∧
      final.tree.entryAt ["work", "src", "index.js"] = some (.file "exports.v = 1;".toUTF8) ∧
      ∀ member ∈ result.modules.modules, ∃ location content,
        sourceWorld.tree.resolve sourceWorld.workingDirectory member.path = .ok location ∧
          sourceWorld.tree.entryAt location = some (.file content) ∧
          (final.tree.entryAt location = some (.file content) ↔
            (sourceBundler emptied).Spares result.assets location content) := by
  have told := run_sparesFiles (ofConfig_source emptied) .none Taps.keepTree_none sourceWorld
  have held : sourceWorld.tree.entryAt ["work", "src", "index.js"] =
      some (.file "exports.v = 1;".toUTF8) := by
    decide +kernel
  have safe : ¬ (sourceBundler emptied).Endangers ["work", "src", "index.js"] := by
    rw [Endangers]
    decide +kernel
  have succeeds : ((sourceBundler emptied).run sourceWorld).1.toOption.isSome = true := by
    decide +kernel
  rcases ran : (sourceBundler emptied).run sourceWorld with ⟨cause | result, final⟩
  · rw [ran] at succeeds
    cases succeeds
  · exact ⟨result, final, rfl, told.1 _ final ran _ _ held safe, told.2.1 result final ran⟩

/-- Whether a run that succeeds leaves something else, or nothing, in place of
the source of one of its modules. -/
def ruinsSource (bundler : Bundler) (world : World) : Bool :=
  match bundler.run world with
  | (.ok result, final) =>
    result.modules.modules.any fun member =>
      final.tree.lookup final.workingDirectory member.path ≠
        world.tree.lookup world.workingDirectory member.path
  | (.error _, _) => false

/-- A source is removed with the output directory, and a source is replaced by a
bundle. -/
theorem source_ruined :
    (sourceBundler { emptied with directory := ⟨"src"⟩ }).ruinsSource
        sourceWorld = true ∧
      (sourceBundler { Output.default with
        directory := ⟨"src"⟩, filename := "index.js" }).ruinsSource sourceWorld = true := by
  constructor <;> decide +kernel

end Bundler

end ScriptBundle
