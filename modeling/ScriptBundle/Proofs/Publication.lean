import ScriptBundle.Proofs.Change
import ScriptBundle.Proofs.Rendering

/-!
# Publishing

Publishing bundles removes the output directory, if that is asked for, and then
makes directories and writes one bundle after the other.  Each of these may
fail, and what was done before stays.  So however publishing ends, the tree is
what it was, perhaps without the output directory, under a layer of directories
and of the bundles that were written.
-/

namespace ScriptBundle

namespace Path

theorem destination_eq_place {path : Path} (absolute : path.isAbsolute = true)
    (workingDirectory : Location) : FileTree.destination workingDirectory path = path.place := by
  rw [FileTree.destination, FileTree.origin, if_pos absolute, place]

end Path

theorem FileTree.exists?_of_isAbsolute {path : Path} (absolute : path.isAbsolute = true)
    (tree : FileTree) (left right : Location) :
    tree.exists? left path = tree.exists? right path := by
  simp only [exists?, lookup, resolve_of_isAbsolute absolute tree left right]

namespace Build

variable {world final : World} {path : Path}

theorem makeDirectories_overlay {result : Except BuildError Unit}
    (ran : makeDirectories path world = (result, final)) :
    ∃ made ⊆ FileTree.trail world.workingDirectory path,
      FileTree.Overlay [] made world.tree final.tree := by
  rw [makeDirectories, Action.bind_apply, Action.get_apply] at ran
  rcases told : world.tree.makeDirectories world.workingDirectory path with ⟨tree, cause | _⟩
  · simp only [told] at ran
    cases ran
    exact FileTree.makeDirectories_overlay told
  · simp only [told] at ran
    cases ran
    exact FileTree.makeDirectories_overlay told

end Build

namespace Asset

variable {world final : World} {asset : Asset} {assets : List Asset} {cause : BuildError}

/-- What a bundle puts into a tree, and where. -/
def file (asset : Asset) : Location × ByteArray :=
  (asset.path.place, asset.text.toUTF8)

/-- The places of the directories above a bundle. -/
def trail (asset : Asset) : List Location :=
  match asset.path.parent with
  | some parent => FileTree.trail [] parent
  | none => []

/-- The bundle that is written last to a place. -/
def lastAt (location : Location) (assets : List Asset) : Option Asset :=
  assets.reverse.find? fun asset => asset.path.place = location

theorem mem_of_lastAt {location : Location} (last : lastAt location assets = some asset) :
    asset ∈ assets ∧ asset.path.place = location := by
  refine ⟨List.mem_reverse.mp (List.mem_of_find?_eq_some last), ?_⟩
  simpa using List.find?_some last

theorem lookup_files (assets : List Asset) (location : Location) :
    (assets.map file).reverse.lookup location =
      (lastAt location assets).map fun asset => asset.text.toUTF8 := by
  rw [lastAt, ← List.map_reverse]
  induction assets.reverse with
  | nil => rfl
  | cons asset rest induction =>
      rw [List.map_cons, List.lookup_cons, List.find?_cons, file]
      by_cases here : asset.path.place = location
      · subst here
        simp
      · have elsewhere : (location == asset.path.place) = false :=
          beq_eq_false_iff_ne.mpr fun same => here same.symm
        simp [here, elsewhere, induction]

/-- An error about a bundle that could not be written, or about the directory
that it was to be written to. -/
inductive Refused (asset : Asset) : BuildError → Prop where
  | directory {parent : Path} {cause : FileError} (above : asset.path.parent = some parent) :
      Refused asset (.write parent cause)
  | file {cause : FileError} : Refused asset (.write asset.path cause)

/-- Writing a bundle makes directories; if this succeeds then it writes the
file. -/
theorem write_split {result : Except BuildError Unit} (absolute : asset.path.isAbsolute = true)
    (ran : asset.write world = (result, final)) :
    ∃ middle : World, (∃ made ⊆ asset.trail, FileTree.Overlay [] made world.tree middle.tree) ∧
      ((∃ cause, result = .error cause ∧ asset.Refused cause ∧ final = middle) ∨
        (do Build.writeFile asset.path asset.text; Build.record (.wrote asset.path) : Build Unit)
          middle = (result, final)) := by
  rw [write] at ran
  cases above : asset.path.parent with
  | none =>
      rw [above] at ran
      exact ⟨world, ⟨[], List.nil_subset _, .refl _⟩, .inr ran⟩
  | some parent =>
      rw [above] at ran
      have sameTrail : FileTree.trail world.workingDirectory parent = asset.trail := by
        rw [trail, above]
        exact FileTree.trail_of_isAbsolute (Path.isAbsolute_of_parent absolute above) _ _
      rcases attempt : Build.makeDirectories parent world with ⟨outcome, middle⟩
      have made := Build.makeDirectories_overlay attempt
      rw [sameTrail] at made
      refine ⟨middle, made, ?_⟩
      change (Build.makeDirectories parent >>= _) world = _ at ran
      rw [Action.bind_apply, attempt] at ran
      cases outcome with
      | ok _ => exact .inr ran
      | error cause =>
          cases ran
          rcases Build.makeDirectories_failsBy parent world cause _ attempt with ⟨failure, rfl⟩
          exact .inl ⟨_, rfl, .directory above, rfl⟩

/-- A bundle that was written is found by its path. -/
theorem write_ok (absolute : asset.path.isAbsolute = true)
    (written : asset.write world = (.ok (), final)) (workingDirectory : Location) :
    final.tree.resolve workingDirectory asset.path = .ok asset.path.place ∧
      ∃ made ⊆ asset.trail, FileTree.Overlay [asset.file] made world.tree final.tree := by
  rcases write_split absolute written with ⟨middle, ⟨made, listed, below⟩, failed | wrote⟩
  · rcases failed with ⟨cause, impossible, -⟩
    cases impossible
  · rcases Action.bind_ok wrote with ⟨_, filled, changed, noted⟩
    rw [Build.writeFile_apply] at changed
    split at changed
    · next tree told =>
      cases changed
      cases noted
      rcases FileTree.writeFile_eq_ok told with ⟨resolved, overlay⟩
      rw [Path.destination_eq_place absolute] at resolved overlay
      rw [FileTree.resolve_of_isAbsolute absolute tree _ workingDirectory] at resolved
      exact ⟨resolved, made, listed, below.trans overlay⟩
    · cases changed

/-- A bundle that was refused leaves at most new directories. -/
theorem write_error (absolute : asset.path.isAbsolute = true)
    (failed : asset.write world = (.error cause, final)) :
    asset.Refused cause ∧
      ∃ made ⊆ asset.trail, FileTree.Overlay [] made world.tree final.tree := by
  rcases write_split absolute failed with ⟨middle, made, refused | wrote⟩
  · rcases refused with ⟨cause, same, refused, rfl⟩
    cases same
    exact ⟨refused, made⟩
  · rcases Action.bind_error wrote with changed | ⟨_, filled, -, noted⟩
    · rw [Build.writeFile_apply] at changed
      split at changed
      · cases changed
      · cases changed
        exact ⟨.file, made⟩
    · cases noted

theorem writeAll_ok (absolute : ∀ asset ∈ assets, asset.path.isAbsolute = true)
    (written : assets.forM write world = (.ok (), final)) :
    ∃ made ⊆ assets.flatMap trail,
      FileTree.Overlay (assets.map file).reverse made world.tree final.tree := by
  induction assets generalizing world with
  | nil =>
      cases written
      exact ⟨[], List.nil_subset _, .refl _⟩
  | cons asset rest induction =>
      change (asset.write >>= fun _ => rest.forM write) world = (.ok (), final) at written
      rcases Action.bind_ok written with ⟨_, middle, first, later⟩
      rcases List.forall_mem_cons.mp absolute with ⟨firstAbsolute, restAbsolute⟩
      rcases write_ok firstAbsolute first [] with ⟨-, made, listed, overlay⟩
      rcases induction restAbsolute later with ⟨more, moreListed, grown⟩
      refine ⟨more ++ made, ?_, ?_⟩
      · rw [List.flatMap_cons]
        apply List.append_subset.mpr
        exact ⟨List.subset_append_of_subset_right _ moreListed,
          List.subset_append_of_subset_left _ listed⟩
      · rw [List.map_cons, List.reverse_cons]
        exact overlay.trans grown

/-- Bundles are written up to the first that is refused. -/
theorem writeAll_error (absolute : ∀ asset ∈ assets, asset.path.isAbsolute = true)
    (failed : assets.forM write world = (.error cause, final)) :
    ∃ written asset rest, assets = written ++ asset :: rest ∧ asset.Refused cause ∧
      ∃ made ⊆ (written ++ [asset]).flatMap trail,
        FileTree.Overlay (written.map file).reverse made world.tree final.tree := by
  rcases Action.forM_error failed with ⟨written, asset, rest, middle, rfl, before, refused⟩
  rcases List.forall_mem_append.mp absolute with ⟨writtenAbsolute, othersAbsolute⟩
  rcases writeAll_ok writtenAbsolute before with ⟨made, listed, overlay⟩
  rcases write_error (othersAbsolute asset List.mem_cons_self) refused with
    ⟨about, more, moreListed, grown⟩
  refine ⟨written, asset, rest, rfl, about, more ++ made, ?_, overlay.trans grown⟩
  rw [List.flatMap_append, List.flatMap_singleton]
  apply List.append_subset.mpr
  exact ⟨List.subset_append_of_subset_right _ moreListed,
    List.subset_append_of_subset_left _ listed⟩

end Asset

/-! ## Removing the output directory -/

namespace Bundler

variable {bundler : Bundler} {world final : World} {assets : List Asset}

/-- Whether the output directory is to be removed from a tree. -/
def removes (bundler : Bundler) (tree : FileTree) : Bool :=
  bundler.config.output.clean && tree.exists? [] bundler.outputDirectory

/-- The tree that bundles are written to: without the output directory, if that
was removed. -/
def cleared (bundler : Bundler) (removed : Bool) (tree : FileTree) : FileTree :=
  if removed then tree.removeBelow bundler.outputDirectory.place else tree

theorem clean_apply (rooted : bundler.Rooted) (world : World) :
    bundler.clean world =
      if bundler.removes world.tree then
        Build.removeDirectory bundler.outputDirectory
          (world.record (.cleaning bundler.outputDirectory))
      else
        (.ok (), world) := by
  have found : Build.pathExists bundler.outputDirectory world =
      (.ok (world.tree.exists? [] bundler.outputDirectory), world) := by
    rw [FileTree.exists?_of_isAbsolute rooted.isAbsolute_outputDirectory _ []
      world.workingDirectory]
    rfl
  rw [clean, removes]
  cases bundler.config.output.clean with
  | false => rfl
  | true =>
      rw [if_pos rfl, Action.bind_apply, found, Bool.true_and]
      cases world.tree.exists? [] bundler.outputDirectory with
      | false => rfl
      | true =>
          rw [if_pos rfl]
          dsimp only
          rw [if_pos rfl, Action.bind_apply, Action.record_apply]

theorem clean_ok (rooted : bundler.Rooted) (cleaned : bundler.clean world = (.ok (), final)) :
    final.tree = bundler.cleared (bundler.removes world.tree) world.tree ∧
      (bundler.removes world.tree = true →
        world.tree.entryAt bundler.outputDirectory.place = some .directory) := by
  rw [clean_apply rooted] at cleaned
  by_cases removed : bundler.removes world.tree = true
  · rw [if_pos removed, Build.removeDirectory_apply] at cleaned
    split at cleaned
    · next tree told =>
      cases cleaned
      rcases FileTree.removeDirectory_eq_ok told with ⟨held, changed⟩
      rw [Path.destination_eq_place rooted.isAbsolute_outputDirectory] at held changed
      rw [cleared, if_pos removed]
      exact ⟨changed, fun _ => held⟩
    · cases cleaned
  · rw [if_neg removed] at cleaned
    cases cleaned
    rw [cleared, if_neg removed]
    exact ⟨rfl, fun given => absurd given removed⟩

theorem clean_error {cause : BuildError} (rooted : bundler.Rooted)
    (failed : bundler.clean world = (.error cause, final)) :
    (∃ failure, cause = .write bundler.outputDirectory failure) ∧ final.tree = world.tree := by
  rw [clean_apply rooted] at failed
  split at failed
  · rw [Build.removeDirectory_apply] at failed
    split at failed
    · cases failed
    · next failure told =>
      cases failed
      exact ⟨⟨failure, rfl⟩, rfl⟩
  · cases failed

/-- How publishing bundles ends, whether the output directory was removed
before that, which bundles were written, and which were tried. -/
inductive Ends (bundler : Bundler) (assets : List Asset) (start : FileTree) :
    Except BuildError Unit → Bool → List Asset → List Asset → Prop where
  /-- The output directory could not be removed. -/
  | kept {cause : FileError} :
      Ends bundler assets start (.error (.write bundler.outputDirectory cause)) false [] []
  /-- A bundle could not be written. -/
  | refused {written rest : List Asset} {asset : Asset} {cause : BuildError}
      (cut : assets = written ++ asset :: rest) (refused : asset.Refused cause) :
      Ends bundler assets start (.error cause) (bundler.removes start) written (written ++ [asset])
  /-- All bundles were written, and then a tap failed. -/
  | called {tap : String} {cause : Failure} :
      Ends bundler assets start (.error (.hook .done tap cause)) (bundler.removes start)
        assets assets
  | done : Ends bundler assets start (.ok ()) (bundler.removes start) assets assets

/-- What publishing has done to a tree: it removed the output directory or not,
wrote some bundles, and made some of the directories above those it tried. -/
structure Leaves (bundler : Bundler) (removed : Bool) (written tried : List Asset)
    (made : List Location) (start final : FileTree) : Prop where
  emptied : removed = true → start.entryAt bundler.outputDirectory.place = some .directory
  above : made ⊆ tried.flatMap Asset.trail
  overlay : FileTree.Overlay (written.map Asset.file).reverse made (bundler.cleared removed start)
    final

theorem Leaves.untouched (bundler : Bundler) (tree : FileTree) :
    bundler.Leaves false [] [] [] tree tree where
  emptied removed := absurd removed Bool.false_ne_true
  above := List.nil_subset _
  overlay := .refl tree

theorem entryAt_cleared (bundler : Bundler) (removed : Bool) (tree : FileTree)
    {location : Location} (below : location ≠ []) :
    (bundler.cleared removed tree).entryAt location =
      if removed = true ∧ bundler.outputDirectory.place <+: location then none
      else tree.entryAt location := by
  rw [cleared]
  cases removed with
  | false => simp
  | true =>
      rw [if_pos rfl, FileTree.entryAt_removeBelow tree _ below]
      simp

theorem Leaves.entryAt_eq {removed : Bool} {written tried : List Asset} {made : List Location}
    {start final : FileTree} (leaves : bundler.Leaves removed written tried made start final)
    (location : Location) :
    final.entryAt location =
      match Asset.lastAt location written with
      | some asset => some (.file asset.text.toUTF8)
      | none =>
        if location ∈ made then some .directory
        else (bundler.cleared removed start).entryAt location := by
  rw [leaves.overlay.entryAt_eq, Asset.lookup_files]
  cases Asset.lastAt location written <;> rfl

/-- However publishing ends, this is what it leaves. -/
theorem publish_leaves {result : Except BuildError Unit} (rooted : bundler.Rooted)
    (quiet : bundler.taps.KeepTree) (absolute : ∀ asset ∈ assets, asset.path.isAbsolute = true)
    (ran : bundler.publish assets world = (result, final)) :
    ∃ removed written tried made,
      bundler.Ends assets world.tree result removed written tried ∧
        bundler.Leaves removed written tried made world.tree final.tree := by
  rw [publish, Action.bind_apply] at ran
  rcases cleaned : bundler.clean world with ⟨cause | _, emptied⟩
  · rw [cleaned] at ran
    cases ran
    rcases clean_error rooted cleaned with ⟨⟨failure, rfl⟩, same⟩
    rw [same]
    exact ⟨false, [], [], [], .kept, .untouched bundler world.tree⟩
  · rw [cleaned] at ran
    rcases clean_ok rooted cleaned with ⟨changed, directory⟩
    dsimp only at ran
    rw [Action.bind_apply] at ran
    rcases wrote : assets.forM Asset.write emptied with ⟨cause | _, filled⟩
    · rw [wrote] at ran
      cases ran
      rcases Asset.writeAll_error absolute wrote with
        ⟨written, asset, rest, cut, refused, made, above, overlay⟩
      rw [changed] at overlay
      exact ⟨_, written, _, made, .refused cut refused, directory, above, overlay⟩
    · rw [wrote] at ran
      dsimp only at ran
      rcases Asset.writeAll_ok absolute wrote with ⟨made, above, overlay⟩
      rw [changed] at overlay
      have kept := quiet.call .done filled
      rw [ran] at kept
      have leaves : bundler.Leaves (bundler.removes world.tree) assets assets made world.tree
          final.tree := ⟨directory, above, kept ▸ overlay⟩
      cases result with
      | ok _ => exact ⟨_, _, _, made, .done, leaves⟩
      | error cause =>
          rcases bundler.taps.call_failsBy .done filled cause final ran with ⟨name, failure, rfl⟩
          exact ⟨_, _, _, made, .called, leaves⟩

theorem Ends.written_prefix {result : Except BuildError Unit} {removed : Bool}
    {written tried : List Asset} {start : FileTree}
    (ends : bundler.Ends assets start result removed written tried) : written <+: assets := by
  cases ends with
  | kept => exact List.nil_prefix
  | refused cut => exact ⟨_, cut.symm⟩
  | called => exact List.prefix_rfl
  | done => exact List.prefix_rfl

theorem Ends.removed {result : Except BuildError Unit} {removed : Bool}
    {written tried : List Asset} {start : FileTree}
    (ends : bundler.Ends assets start result removed written tried) (gone : removed = true) :
    bundler.removes start = true := by
  cases ends with
  | kept => cases gone
  | refused => exact gone
  | called => exact gone
  | done => exact gone

theorem clean_of_removes {tree : FileTree} (removes : bundler.removes tree = true) :
    bundler.config.output.clean = true :=
  (Bool.and_eq_true_iff.mp removes).1

/-- A run that cannot prepare its bundles leaves the tree alone; any other leaves
what publishing them leaves, however it ends. -/
theorem run_leaves {outcome : Except BuildError BuildResult} (rooted : bundler.Rooted)
    (quiet : bundler.taps.KeepTree) (ran : bundler.run world = (outcome, final)) :
    (∃ cause, outcome = .error cause ∧ bundler.prepare world = (.error cause, final) ∧
        final.tree = world.tree) ∨
      ∃ assets modules middle, bundler.prepare world = (.ok (assets, modules), middle) ∧
        (∀ result, outcome = .ok result → result.assets = assets) ∧
        ∃ removed written tried made,
          bundler.Ends assets world.tree (outcome.map fun _ => ()) removed written tried ∧
            bundler.Leaves removed written tried made world.tree final.tree := by
  have kept := prepare_keepsTree quiet world
  rw [run_eq, Action.bind_apply] at ran
  rcases prepared : bundler.prepare world with ⟨cause | ⟨assets, modules⟩, middle⟩
  · rw [prepared] at ran kept
    cases ran
    exact .inl ⟨cause, rfl, rfl, kept⟩
  · rw [prepared] at ran kept
    have absolute := isAbsolute_of_prepare rooted prepared
    dsimp only at ran
    rw [Action.bind_apply] at ran
    rcases published : bundler.publish assets middle with ⟨ending, last⟩
    have left := publish_leaves rooted quiet absolute published
    rw [kept] at left
    rw [published] at ran
    cases ending with
    | error cause =>
        cases ran
        refine .inr ⟨assets, modules, middle, rfl, ?_, left⟩
        intro result succeeded
        cases succeeded
    | ok _ =>
        cases ran
        refine .inr ⟨assets, modules, middle, rfl, ?_, left⟩
        intro result succeeded
        cases succeeded
        rfl

end Bundler

end ScriptBundle
