import Mathlib.Data.List.Find
import ScriptBundle.Proofs.Content
import ScriptBundle.Proofs.Remaking
import ScriptBundle.Proofs.Repetition

/-!
# Builds away from their working directory

An absolute path means the same wherever a build is started.  Once a build knows
the directory of its sources, all paths that it asks about, and all that it
changes, are absolute.  So its result and the tree that it leaves are those of
the same build in any other working directory, whatever was noted before.
-/

namespace ScriptBundle

namespace FileTree

variable {path : Path}

/-- An absolute path is followed from the root of the tree. -/
theorem startOf_congr (absolute : path.isAbsolute = true) (left right : Location) :
    startOf left path = startOf right path := by
  simp only [startOf, absolute, if_true]

/-- So whatever is asked about it has one answer everywhere. -/
theorem lookup_of_isAbsolute (absolute : path.isAbsolute = true) (tree : FileTree)
    (left right : Location) : tree.lookup left path = tree.lookup right path := by
  rw [lookup, lookup, resolve_of_isAbsolute absolute tree left right]

theorem isFile_of_isAbsolute (absolute : path.isAbsolute = true) (tree : FileTree)
    (left right : Location) : tree.isFile left path = tree.isFile right path := by
  rw [isFile, isFile, lookup_of_isAbsolute absolute tree left right]

theorem isDirectory_of_isAbsolute (absolute : path.isAbsolute = true) (tree : FileTree)
    (left right : Location) : tree.isDirectory left path = tree.isDirectory right path := by
  rw [isDirectory, isDirectory, lookup_of_isAbsolute absolute tree left right]

theorem readText_of_isAbsolute (absolute : path.isAbsolute = true) (tree : FileTree)
    (left right : Location) : tree.readText left path = tree.readText right path := by
  rw [readText, readText, lookup_of_isAbsolute absolute tree left right]

/-- What is read at a place does not depend on the path that leads to it. -/
theorem readText_of_resolve {tree : FileTree} {left right location : Location} {other : Path}
    (leads : tree.resolve left path = .ok location)
    (otherLeads : tree.resolve right other = .ok location) :
    tree.readText left path = tree.readText right other := by
  rw [readText, readText, lookup, lookup, leads, otherLeads]

/-- The same is true of what is changed at an absolute path. -/
theorem writeFile_of_isAbsolute (absolute : path.isAbsolute = true) (tree : FileTree)
    (left right : Location) (content : ByteArray) :
    tree.writeFile left path content = tree.writeFile right path content := by
  rw [writeFile, writeFile, placeOf, placeOf, startOf_congr absolute left right]

theorem makeDirectory_of_isAbsolute (absolute : path.isAbsolute = true) (tree : FileTree)
    (left right : Location) : tree.makeDirectory left path = tree.makeDirectory right path := by
  rw [makeDirectory, makeDirectory, placeOf, placeOf, startOf_congr absolute left right]

theorem removeDirectory_of_isAbsolute (absolute : path.isAbsolute = true) (tree : FileTree)
    (left right : Location) :
    tree.removeDirectory left path = tree.removeDirectory right path := by
  rw [removeDirectory, removeDirectory, resolve_of_isAbsolute absolute tree left right]

/-- Directories are made one after the other, each at an absolute path. -/
theorem makeMissing_of_isAbsolute (left right : Location) {missing : List Path}
    (absolute : ∀ path ∈ missing, path.isAbsolute = true) (tree : FileTree) :
    makeMissing left tree missing = makeMissing right tree missing := by
  induction missing generalizing tree with
  | nil => rfl
  | cons path rest induction =>
      rcases List.forall_mem_cons.mp absolute with ⟨first, others⟩
      simp only [makeMissing, makeDirectory_of_isAbsolute first tree left right,
        isDirectory_of_isAbsolute first tree left right, induction others]

/-- The directories above a path are made in the same way. -/
theorem makeUpwards_of_isAbsolute (left right : Location) {missing above : List Path}
    (absolute : ∀ path ∈ missing, path.isAbsolute = true)
    (higher : ∀ path ∈ above, path.isAbsolute = true) (tree : FileTree) :
    makeUpwards left tree missing above = makeUpwards right tree missing above := by
  induction above generalizing missing with
  | nil => exact makeMissing_of_isAbsolute left right absolute tree
  | cons path rest induction =>
      rcases List.forall_mem_cons.mp higher with ⟨first, others⟩
      have further := induction (List.forall_mem_cons.mpr ⟨first, absolute⟩) others
      simp only [makeUpwards, makeDirectory_of_isAbsolute first tree left right,
        isDirectory_of_isAbsolute first tree left right, further,
        makeMissing_of_isAbsolute left right absolute]

theorem makeDirectories_of_isAbsolute (absolute : path.isAbsolute = true) (tree : FileTree)
    (left right : Location) :
    tree.makeDirectories left path = tree.makeDirectories right path := by
  rw [makeDirectories, makeDirectories]
  exact makeUpwards_of_isAbsolute left right (List.forall_mem_nil _)
    (ancestorsOf_isAbsolute absolute _) tree

end FileTree

namespace Action

variable {Cause Other Result Next : Type}

/-- Two outcomes have the same result and the same tree. -/
structure Agree (outcome other : Except Cause Result × World) : Prop where
  result : outcome.1 = other.1
  tree : outcome.2.tree = other.2.tree

/-- Composed actions agree if their parts do, which start in worlds with one tree. -/
theorem Agree.bind {action elsewhere : Action Cause Result}
    {next nextElsewhere : Result → Action Cause Next} {left right : World}
    (first : Agree (action left) (elsewhere right))
    (second : ∀ result leftAfter rightAfter, action left = (.ok result, leftAfter) →
      leftAfter.tree = rightAfter.tree →
      Agree (next result leftAfter) (nextElsewhere result rightAfter)) :
    Agree ((action >>= next) left) ((elsewhere >>= nextElsewhere) right) := by
  rcases first with ⟨result, tree⟩
  rw [bind_apply, bind_apply]
  rcases ran : action left with ⟨cause | value, leftAfter⟩ <;>
    rcases again : elsewhere right with ⟨otherCause | other, rightAfter⟩ <;>
    rw [ran, again] at result tree <;> cases result
  · exact ⟨rfl, tree⟩
  · exact second value leftAfter rightAfter ran tree

/-- An action that comes to the same in the same tree, wherever it starts and
whatever was noted before. -/
def Detached (action : Action Cause Result) : Prop :=
  ∀ left right : World, left.tree = right.tree → Agree (action left) (action right)

namespace Detached

theorem pure (result : Result) : Detached (Pure.pure result : Action Cause Result) :=
  fun _ _ same => ⟨rfl, same⟩

theorem throw (cause : Cause) : Detached (MonadExcept.throw cause : Action Cause Result) :=
  fun _ _ same => ⟨rfl, same⟩

theorem lift (result : Except Cause Result) : Detached (liftM result : Action Cause Result) := by
  cases result with
  | ok value => exact .pure value
  | error cause => exact .throw cause

theorem record (event : Event) : Detached (Build.record event : Action Cause Unit) :=
  fun _ _ same => ⟨rfl, same⟩

/-- A composed action is detached if its parts are. -/
theorem bind {action : Action Cause Result} {next : Result → Action Cause Next}
    (first : Detached action) (second : ∀ result, Detached (next result)) :
    Detached (action >>= next) := by
  intro left right same
  exact (first left right same).bind fun result _ _ _ after => second result _ _ after

theorem forM {Item : Type} {items : List Item} {round : Item → Action Cause Unit}
    (rounds : ∀ item ∈ items, Detached (round item)) : Detached (items.forM round) := by
  induction items with
  | nil => exact .pure ()
  | cons item rest induction =>
      rcases List.forall_mem_cons.mp rounds with ⟨first, others⟩
      exact bind first fun _ => induction others

/-- A loop is detached if each of its rounds is. -/
theorem foldlM {Item State : Type} {round : State → Item → Action Cause State}
    (rounds : ∀ state item, Detached (round state item)) (items : List Item) (state : State) :
    Detached (items.foldlM round state) := by
  induction items generalizing state with
  | nil => exact .pure state
  | cons item rest induction =>
      rw [List.foldlM_cons]
      exact bind (rounds state item) fun next => induction next

end Detached

end Action

namespace Build

variable {path : Path}

/-- What a build changes at an absolute path it changes everywhere. -/
theorem writeFile_detached (absolute : path.isAbsolute = true) (text : String) :
    Action.Detached (writeFile path text) := by
  intro left right same
  rw [writeFile_apply, writeFile_apply, ← same, FileTree.writeFile_of_isAbsolute absolute left.tree
    left.workingDirectory right.workingDirectory]
  cases left.tree.writeFile right.workingDirectory path text.toUTF8 with
  | ok tree => exact ⟨rfl, rfl⟩
  | error cause => exact ⟨rfl, same⟩

theorem removeDirectory_detached (absolute : path.isAbsolute = true) :
    Action.Detached (removeDirectory path) := by
  intro left right same
  rw [removeDirectory_apply, removeDirectory_apply, ← same,
    FileTree.removeDirectory_of_isAbsolute absolute left.tree left.workingDirectory
      right.workingDirectory]
  cases left.tree.removeDirectory right.workingDirectory path with
  | ok tree => exact ⟨rfl, rfl⟩
  | error cause => exact ⟨rfl, same⟩

theorem makeDirectories_detached (absolute : path.isAbsolute = true) :
    Action.Detached (makeDirectories path) := by
  intro left right same
  rw [makeDirectories, Action.bind_apply, Action.bind_apply, Action.get_apply, Action.get_apply]
  dsimp only
  rw [← same, FileTree.makeDirectories_of_isAbsolute absolute left.tree left.workingDirectory
    right.workingDirectory]
  rcases left.tree.makeDirectories right.workingDirectory path with ⟨tree, cause | _⟩ <;>
    exact ⟨rfl, rfl⟩

end Build

theorem Asset.write_detached {asset : Asset} (absolute : asset.path.isAbsolute = true) :
    Action.Detached asset.write := by
  rw [write]
  have wrote : Action.Detached (do
      Build.writeFile asset.path asset.text
      Build.record (.wrote asset.path) : Build Unit) :=
    (Build.writeFile_detached absolute _).bind fun _ => .record _
  cases above : asset.path.parent with
  | none => exact wrote
  | some parent =>
      exact (Build.makeDirectories_detached (Path.isAbsolute_of_parent absolute above)).bind
        fun _ => wrote

namespace ModuleBuilder

variable {builder : ModuleBuilder} {owner : String} {state : BuildState} {path : Path}
  {left right : World} {known : String → Bool}

/-- A call names the same file wherever the build was started. -/
theorem fileFor?_of_isAbsolute (linker : Linker) (same : left.tree = right.tree)
    {directory : Path} (absolute : directory.isAbsolute = true) :
    linker.fileFor? left directory = linker.fileFor? right directory := by
  funext specifier
  rw [Linker.fileFor?, Linker.fileFor?, same]
  apply List.find?_congr
  intro candidate listed
  rcases List.mem_map.mp listed with ⟨extension, -, rfl⟩
  refine FileTree.isFile_of_isAbsolute (Path.isAbsolute_prolonged ?_ extension) _ _ _
  rw [Path.isAbsolute_normalize]
  exact Path.isAbsolute_join absolute _

/-- The module in a file with an absolute path does not depend on the working
directory. -/
theorem moduleOf_of_isAbsolute (builder : ModuleBuilder) (same : left.tree = right.tree)
    (absolute : path.isAbsolute = true) (known : String → Bool) (owner : String) :
    builder.moduleOf left known owner path = builder.moduleOf right known owner path := by
  have texts : builder.textOf left path = builder.textOf right path := by
    rw [textOf, textOf, same, FileTree.readText_of_isAbsolute absolute right.tree
      left.workingDirectory right.workingDirectory]
  rw [moduleOf, moduleOf, ← texts]
  cases read : builder.textOf left path with
  | error cause => simp only [bind, Except.bind]
  | ok text =>
      rcases leadsToFile_of_textOf read with ⟨location, leads⟩
      have directory := Path.isAbsolute_directory absolute (leads.steps_ne_nil absolute)
      have files := fileFor?_of_isAbsolute builder.linker same directory
      have names : builder.linker.nameFor left path.directory =
          builder.linker.nameFor right path.directory := by
        funext specifier
        rw [Linker.nameFor, Linker.nameFor, Linker.idFor?, Linker.idFor?, files]
      simp only [bind, Except.bind, moduleFrom, Linker.gather, files, names]

/-- A module at an absolute path is made from files at absolute paths. -/
theorem make_detached (builder : ModuleBuilder) (known : String → Bool) (owner : String)
    (absolute : path.isAbsolute = true) : Action.Detached (builder.make known owner path) := by
  intro left right same
  rcases builder.make_eq known owner path left with ⟨leftSame, leftMade⟩
  rcases builder.make_eq known owner path right with ⟨rightSame, rightMade⟩
  refine ⟨?_, leftSame.tree.trans (same.trans rightSame.tree.symm)⟩
  rw [leftMade, rightMade, moduleOf_of_isAbsolute builder same absolute]

/-- What a module with an absolute path finds has absolute paths. -/
theorem Made.isAbsolute {world : World} {added : Module}
    (made : builder.Made world known owner path added) (absolute : path.isAbsolute = true) :
    ∀ file ∈ added.dependencies, file.isAbsolute = true := by
  intro file found
  rcases made.leadsToFile with ⟨location, leads⟩
  exact (made.requiresFile found).isAbsolute leads absolute

/-- Building paths that are absolute comes to the same in the same tree. -/
theorem buildPending_of_isAbsolute (builder : ModuleBuilder) (owner : String) (fuel : Nat)
    {pending : List Path} (absolute : ∀ path ∈ pending, path.isAbsolute = true)
    (state : BuildState) (same : left.tree = right.tree) :
    (builder.buildPending owner fuel pending state left).1 =
        (builder.buildPending owner fuel pending state right).1 ∧
      (builder.buildPending owner fuel pending state left).2.tree =
        (builder.buildPending owner fuel pending state right).2.tree := by
  induction fuel generalizing pending state left right with
  | zero => exact ⟨rfl, same⟩
  | succ fuel rounds =>
      induction pending with
      | nil => exact ⟨rfl, same⟩
      | cons path rest induction =>
          rcases List.forall_mem_cons.mp absolute with ⟨first, others⟩
          cases status : state.hasStatus (builder.idOf path) with
          | true =>
              rw [buildPending_known fuel rest status]
              exact induction others
          | false =>
              rw [buildPending_unknown fuel rest left status,
                buildPending_unknown fuel rest right status]
              rcases builder.make_detached (builder.knownWhile state path) owner first left right
                same with ⟨result, tree⟩
              rcases ran : builder.make (builder.knownWhile state path) owner path left with
                ⟨cause | added, leftAfter⟩ <;>
                rcases again : builder.make (builder.knownWhile state path) owner path right with
                  ⟨otherCause | other, rightAfter⟩ <;>
                rw [ran, again] at result tree <;> cases result
              · exact ⟨rfl, tree⟩
              · have found := (made_of_make ran).isAbsolute first
                exact rounds (List.forall_mem_append.mpr ⟨found, others⟩) _ tree

end ModuleBuilder

namespace Bundler

variable {bundler : Bundler} {assets : List Asset}

theorem buildEntry_detached (rooted : bundler.Rooted) (progress : BuildState × List EntryPoint)
    (entry : String × String) : Action.Detached (bundler.buildEntry progress entry) := by
  intro left right same
  have single : ∀ path ∈ [bundler.entryPath entry.2], path.isAbsolute = true :=
    List.forall_mem_singleton.mpr (rooted.isAbsolute_entryPath entry.2)
  have built := ModuleBuilder.buildPending_of_isAbsolute bundler.moduleBuilder entry.1
    (ModuleBuilder.moduleLimit left.tree) single progress.1 same
  rw [buildEntry, buildEntry, ModuleBuilder.build_eq_buildPending,
    ModuleBuilder.build_eq_buildPending, ← same]
  rcases ran : bundler.moduleBuilder.buildPending entry.1 (ModuleBuilder.moduleLimit left.tree)
    [bundler.entryPath entry.2] progress.1 left with ⟨⟨after, result⟩, leftAfter⟩
  rcases again : bundler.moduleBuilder.buildPending entry.1
    (ModuleBuilder.moduleLimit left.tree) [bundler.entryPath entry.2] progress.1 right with
    ⟨⟨otherAfter, otherResult⟩, rightAfter⟩
  rw [ran, again] at built
  rcases built with ⟨outcome, tree⟩
  cases outcome
  cases result with
  | error cause => exact ⟨rfl, tree⟩
  | ok _ => exact ⟨rfl, tree⟩

theorem addAsset_detached (bundler : Bundler) (assets : List Asset) (chunk : Chunk) :
    Action.Detached (bundler.addAsset assets chunk) := by
  intro left right same
  rw [addAsset_apply, addAsset_apply]
  split
  · exact ⟨rfl, same⟩
  · exact ⟨rfl, same⟩

/-- Taps that only note their calls do not look at the working directory. -/
theorem call_detached {taps : Taps} (notes : taps.All Tap.Notes) (hook : Hook) :
    Action.Detached (taps.call hook) := by
  rcases Taps.call_notes notes hook with ⟨events, called⟩
  intro left right same
  rw [called, called]
  exact ⟨rfl, same⟩

/-- The chunks of a run are prepared from paths below the context. -/
theorem prepare_detached (rooted : bundler.Rooted) (notes : bundler.taps.All Tap.Notes) :
    Action.Detached bundler.prepare := by
  have guarded : Action.Detached bundler.guardCleaning := by
    rw [guardCleaning]
    split
    · exact .throw _
    · exact .pure _
  have built : Action.Detached bundler.buildModules :=
    (Action.Detached.foldlM (bundler.buildEntry_detached rooted) _ _).bind fun _ => .pure _
  have gathered : Action.Detached bundler.gather :=
    guarded.bind fun _ => (call_detached notes .run).bind fun _ => built
  refine gathered.bind fun gathering => ?_
  refine (Action.Detached.foldlM bundler.addAsset_detached _ []).bind fun rendered => ?_
  exact (call_detached notes .emit).bind fun _ => .pure _

theorem clean_detached (rooted : bundler.Rooted) : Action.Detached bundler.clean := by
  intro left right same
  rw [clean_apply rooted, clean_apply rooted, same]
  split
  · exact Build.removeDirectory_detached rooted.isAbsolute_outputDirectory _ _ same
  · exact ⟨rfl, same⟩

/-- Assets are written to absolute paths, below the output directory. -/
theorem publish_detached (rooted : bundler.Rooted) (notes : bundler.taps.All Tap.Notes)
    (absolute : ∀ asset ∈ assets, asset.path.isAbsolute = true) :
    Action.Detached (bundler.publish assets) := by
  refine (clean_detached rooted).bind fun _ => ?_
  refine (Action.Detached.forM fun asset listed => ?_).bind fun _ => call_detached notes .done
  exact Asset.write_detached (absolute asset listed)

/-- A run comes to the same in the same tree, wherever it starts. -/
theorem run_detached (rooted : bundler.Rooted) (notes : bundler.taps.All Tap.Notes) :
    Action.Detached bundler.run := by
  intro left right same
  rw [run_eq]
  refine (prepare_detached rooted notes left right same).bind ?_
  rintro ⟨assets, modules⟩ leftAfter rightAfter prepared after
  have absolute := isAbsolute_of_prepare rooted prepared
  exact ((publish_detached rooted notes absolute).bind fun _ => .pure _) _ _ after

end Bundler

end ScriptBundle
