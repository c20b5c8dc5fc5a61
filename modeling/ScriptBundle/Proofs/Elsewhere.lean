import ScriptBundle.Command
import ScriptBundle.Proofs.Detached
import ScriptBundle.Proofs.Joining

/-!
# Commands that are started elsewhere

A configuration file may be named from any directory.  Its directory then comes
into play where the file does not name the directory of its sources by an
absolute path: by the path that leads to it, or, if the command is started in
it, by the path of the working directory.  Both lead to one place, and the
directory of the sources is told by its place alone.  From there on the build is
detached from the working directory.
-/

namespace ScriptBundle

namespace Bundler

variable {config : Config}

theorem describe_detached (registry : LoaderRegistry) (config : Config) (context : Path) :
    Action.Detached (describe registry config context) := by
  have applied (plugins : List Plugin) (taps : Taps) :
      Action.Detached (applyPlugins plugins taps) := by
    refine .foldlM ?_ plugins taps
    intro attached plugin
    exact (Action.Detached.record _).bind fun _ => .pure _
  exact (Action.Detached.lift _).bind fun _ => (Action.Detached.lift _).bind fun plugins =>
    (applied plugins .none).bind fun _ => .pure _

/-- Once the directory of the sources is known, it does not matter how the
configuration named it. -/
theorem describe_run_withContext (registry : LoaderRegistry) (config : Config)
    (spelled : Option Path) (context : Path) :
    (describe registry { config with context := spelled } context >>= run) =
      (describe registry config context >>= run) := by
  simp only [describe, bind_assoc, pure_bind]
  rfl

theorem ofConfig_run_apply (registry : LoaderRegistry) (config : Config) (world : World) :
    (ofConfig registry config >>= run) world =
      (describe registry config (config.contextDirectory world.workingPath) >>= run) world := by
  rw [Action.bind_apply, Action.bind_apply, ofConfig_apply]

/-- Configurations that differ only in how they name the directory of the sources
come to the same. -/
theorem ofConfig_run_agree (registry : LoaderRegistry) {left right : World}
    (same : left.tree = right.tree) {spelled other : Option Path}
    (context : Config.contextDirectory { config with context := spelled } left.workingPath =
      Config.contextDirectory { config with context := other } right.workingPath) :
    Action.Agree ((ofConfig registry { config with context := spelled } >>= run) left)
      ((ofConfig registry { config with context := other } >>= run) right) := by
  rw [ofConfig_run_apply, ofConfig_run_apply, ← context,
    describe_run_withContext registry config other,
    ← describe_run_withContext registry config spelled]
  refine (describe_detached registry _ _ left right same).bind ?_
  intro bundler leftAfter rightAfter described tree
  rw [← ofConfig_apply] at described
  exact run_detached (rooted_ofConfig described) (taps_ofConfig described) _ _ tree

end Bundler

namespace Config

variable {config : Config}

/-- The directory of the sources is the one that the configuration names, seen
from the working directory. -/
theorem contextDirectory_eq {world : World} (named : FileTree.Named world.workingDirectory)
    (config : Config) :
    config.contextDirectory world.workingPath =
      FileTree.absoluteRoute
        (config.context.elim world.workingDirectory
          (FileTree.destination world.workingDirectory)) := by
  have absolute := Bundler.isAbsolute_workingPath world
  have place := World.place_workingPath named
  rw [contextDirectory]
  cases config.context with
  | none =>
      dsimp only [Option.elim]
      rw [FileTree.normalize_of_isAbsolute absolute, place]
  | some context =>
      have joined := Path.isAbsolute_join absolute context
      dsimp only [Option.elim]
      rw [FileTree.normalize_of_isAbsolute joined, ← Path.destination_eq_place joined [],
        FileTree.destination_join, Path.destination_eq_place absolute, place]

theorem basedAt_eq_withContext (config : Config) (path : Path) :
    config.basedAt path = { config with context := (config.basedAt path).context } := by
  rw [basedAt]
  split
  · split <;> rfl
  · rfl

/-- A configuration from a file names the directory of its sources as it is seen
from the directory of the file. -/
theorem destination_basedAt {path above : Path} (found : path.parent = some above)
    (config : Config) (workingDirectory : Location) :
    (config.basedAt path).context.elim workingDirectory
        (FileTree.destination workingDirectory) =
      config.context.elim (FileTree.destination workingDirectory above)
        (FileTree.destination (FileTree.destination workingDirectory above)) := by
  rw [basedAt, found]
  dsimp only
  by_cases empty : above.text = ""
  · rw [if_pos empty, FileTree.destination_of_empty empty]
  · rw [if_neg empty]
    cases config.context with
    | none => rfl
    | some context => exact FileTree.destination_join workingDirectory above context

/-- The directory of the sources is the same for a configuration file that is
named from elsewhere and from its own directory. -/
theorem contextDirectory_basedAt {world elsewhere : World} {directory : Path} {name : String}
    (named : FileTree.Named elsewhere.workingDirectory) (isName : Path.IsName name.toList)
    (leads : FileTree.destination elsewhere.workingDirectory directory = world.workingDirectory)
    (config : Config) :
    (config.basedAt (directory.join ⟨name⟩)).contextDirectory elsewhere.workingPath =
      (config.basedAt ⟨name⟩).contextDirectory world.workingPath := by
  have namedHere : FileTree.Named world.workingDirectory := by
    rw [← leads]
    exact named.destination directory
  rcases FileTree.exists_parent_join isName elsewhere.workingDirectory directory with
    ⟨above, found, there⟩
  rcases FileTree.exists_parent_join isName world.workingDirectory ⟨""⟩ with
    ⟨below, foundHere, here⟩
  rw [Path.join_of_empty rfl isName.isAbsolute_eq_false] at foundHere
  rw [FileTree.destination_of_empty rfl] at here
  rw [contextDirectory_eq named, contextDirectory_eq namedHere, destination_basedAt found,
    destination_basedAt foundHere, there, here, leads]

end Config

namespace Command

variable {arguments : Arguments} {config : Config} {path : Path} {world : World}

/-- What a command does with the configuration that it has chosen. -/
def proceed (arguments : Arguments) (loaded : Config) : Action Failure (List String) := do
  let config ← (withArguments loaded arguments : Except Failure Config)
  let output ← told (do
    let bundler ← Bundler.ofConfig .default config
    bundler.run)
  pure (report arguments output)

theorem run_eq_proceed (arguments : Arguments) :
    run arguments = chooseConfig arguments >>= proceed arguments :=
  rfl

theorem told_agree {Result : Type} {action elsewhere : Build Result} {left right : World}
    (agree : Action.Agree (action left) (elsewhere right)) :
    Action.Agree (told action left) (told elsewhere right) := by
  have opened (action : Build Result) (world : World) :
      told action world =
        ((action world).1.mapError BuildError.toFailure, (action world).2) := by
    rfl
  rw [opened, opened, agree.result]
  exact ⟨rfl, agree.tree⟩

/-- Arguments replace what a configuration says apart from each other. -/
theorem withArguments_withContext (config : Config) (context : Option Path)
    (arguments : Arguments) :
    withArguments { config with context := context } arguments =
      (withArguments config arguments).map fun chosen =>
        { chosen with context := arguments.context.or context } := by
  rw [withArguments, withArguments]
  split
  · rfl
  · cases Entries.ofArguments arguments.entries <;> rfl

/-- Arguments that do not name the directory of the sources by a relative path
leave it to the configuration, or name it wherever the command is started. -/
theorem proceed_agree {left right : World} (same : left.tree = right.tree)
    (absolute : ∀ context, arguments.context = some context → context.isAbsolute = true)
    {spelled other : Option Path}
    (directory : Config.contextDirectory { config with context := spelled } left.workingPath =
      Config.contextDirectory { config with context := other } right.workingPath) :
    Action.Agree (proceed arguments { config with context := spelled } left)
      (proceed arguments { config with context := other } right) := by
  rw [proceed, proceed, withArguments_withContext config spelled,
    withArguments_withContext config other]
  cases chosen : withArguments config arguments with
  | error cause => exact ⟨rfl, same⟩
  | ok config =>
      have context :
          Config.contextDirectory { config with context := arguments.context.or spelled }
              left.workingPath =
            Config.contextDirectory { config with context := arguments.context.or other }
              right.workingPath := by
        cases given : arguments.context with
        | none => exact directory
        | some context =>
            rw [Config.contextDirectory, Config.contextDirectory]
            dsimp only [Option.some_or]
            rw [Path.join, Path.join, if_pos (absolute context given),
              if_pos (absolute context given)]
      have built := told_agree (Bundler.ofConfig_run_agree .default same context)
      exact built.bind fun output _ _ _ tree => ⟨rfl, tree⟩

theorem ofFileText_congr {path other : Path} {text : String} {config : Config}
    (read : Config.ofFileText path text = .ok config) :
    Config.ofFileText other text = .ok config := by
  rw [Config.ofFileText] at read ⊢
  cases decoded : Json.decodeText Config.decoder (Json.documentOfText text) with
  | error refusal =>
      rw [decoded] at read
      cases read
  | ok loaded =>
      rw [decoded] at read
      cases read
      rfl

theorem load_apply (path : Path) (world : World) :
    Config.load path world =
      ((world.tree.readText world.workingDirectory path).mapError (.read path) >>=
        Config.ofFileText path, world.record (.read path)) := by
  rw [Config.load, Action.bind_apply, ModuleBuilder.readFile_apply]
  cases world.tree.readText world.workingDirectory path with
  | error cause => rfl
  | ok text =>
      rw [Action.mapError_ok]
      dsimp only
      change _ = (Config.ofFileText path text, _)
      cases Config.ofFileText path text <;> rfl

/-- A configuration is loaded from a text that its path leads to. -/
theorem exists_text_of_load (loaded : (Config.load path world).1 = .ok config) :
    ∃ text, world.tree.readText world.workingDirectory path = .ok text ∧
      Config.ofFileText path text = .ok config := by
  rw [load_apply] at loaded
  cases read : world.tree.readText world.workingDirectory path with
  | error cause =>
      rw [read] at loaded
      cases loaded
  | ok text =>
      rw [read] at loaded
      exact ⟨text, rfl, loaded⟩

theorem loadFile_of_readText {text : String}
    (read : world.tree.readText world.workingDirectory path = .ok text)
    (decoded : Config.ofFileText path text = .ok config) :
    loadFile path world =
      (.ok (config.basedAt path), (world.record (.loadingConfig path)).record (.read path)) := by
  have loaded : Config.load path (world.record (.loadingConfig path)) =
      (.ok config, (world.record (.loadingConfig path)).record (.read path)) := by
    rw [load_apply, World.record_tree, World.record_workingDirectory, read, Action.mapError_ok]
    change (Config.ofFileText path text, _) = _
    rw [decoded]
  rw [loadFile, Action.bind_apply, Action.record_apply]
  dsimp only
  rw [Action.bind_apply, Action.adapt_apply, loaded, Action.mapError_ok]
  rfl

/-- Once a configuration is chosen the file that the arguments name has no more
part in a command. -/
theorem run_of_chooseConfig {given : Option Path} {loaded : Config} {middle : World}
    (chosen : chooseConfig { arguments with config := given } world = (.ok loaded, middle)) :
    run { arguments with config := given } world = proceed arguments loaded middle := by
  rw [run_eq_proceed, Action.bind_apply, chosen]
  rfl

variable {text : String}

/-- A command goes on with the configuration that its arguments name. -/
theorem exists_proceed_of_named (arguments : Arguments)
    (read : world.tree.readText world.workingDirectory path = .ok text)
    (decoded : Config.ofFileText path text = .ok config) :
    ∃ begun : World, begun.SameFiles world ∧
      run { arguments with config := some path } world =
        proceed arguments (config.basedAt path) begun := by
  have chosen : chooseConfig { arguments with config := some path } world =
      (.ok (config.basedAt path), (world.record (.loadingConfig path)).record (.read path)) :=
    loadFile_of_readText read decoded
  refine ⟨_, ?_, run_of_chooseConfig chosen⟩
  exact ⟨rfl, rfl⟩

/-- A command whose arguments name no configuration goes on with the one in the
working directory that has the default name. -/
theorem exists_proceed_of_unnamed (arguments : Arguments)
    (read : world.tree.readText world.workingDirectory ⟨Config.defaultFileName⟩ = .ok text)
    (decoded : Config.ofFileText ⟨Config.defaultFileName⟩ text = .ok config) :
    ∃ begun : World, begun.SameFiles world ∧
      run { arguments with config := none } world =
        proceed arguments (config.basedAt ⟨Config.defaultFileName⟩) begun := by
  have isFile : world.tree.isFile world.workingDirectory ⟨Config.defaultFileName⟩ = true :=
    FileTree.isFile_iff.mpr (FileTree.leadsToFile_of_readText read)
  have asked : told (Build.isFile ⟨Config.defaultFileName⟩) world =
      (.ok true, world.record (.probed ⟨Config.defaultFileName⟩ true)) := by
    rw [told, Action.adapt_apply, ← isFile]
    rfl
  have chosen : chooseConfig { arguments with config := none } world =
      loadFile ⟨Config.defaultFileName⟩
        (world.record (.probed ⟨Config.defaultFileName⟩ true)) := by
    rw [chooseConfig]
    dsimp only
    rw [Action.bind_apply, asked]
    rfl
  have loaded : loadFile ⟨Config.defaultFileName⟩
      (world.record (.probed ⟨Config.defaultFileName⟩ true)) =
        (.ok (config.basedAt ⟨Config.defaultFileName⟩), _) :=
    loadFile_of_readText read decoded
  refine ⟨_, ?_, run_of_chooseConfig (chosen.trans loaded)⟩
  exact ⟨rfl, rfl⟩

/-- A command comes to the same whether it is started in the directory of its
configuration file or in any other directory, from which a path leads to that
directory; and the file need not be named in its own directory if it has the
default name.  What arguments say is the same in both cases, unless they name the
directory of the sources by a relative path. -/
theorem run_agree_elsewhere {elsewhere : World} {directory : Path} {name : String}
    (same : elsewhere.tree = world.tree) (named : FileTree.Named elsewhere.workingDirectory)
    (leads : elsewhere.tree.resolve elsewhere.workingDirectory directory =
      .ok world.workingDirectory)
    (isName : Path.IsName name.toList)
    (loads : ∃ config, (Config.load (directory.join ⟨name⟩) elsewhere).1 = .ok config)
    (absolute : ∀ context, arguments.context = some context → context.isAbsolute = true) :
    Action.Agree (run { arguments with config := some (directory.join ⟨name⟩) } elsewhere)
        (run { arguments with config := some ⟨name⟩ } world) ∧
      (name = Config.defaultFileName →
        Action.Agree (run { arguments with config := some (directory.join ⟨name⟩) } elsewhere)
          (run { arguments with config := none } world)) := by
  rcases loads with ⟨config, loaded⟩
  rcases exists_text_of_load loaded with ⟨text, read, decoded⟩
  rcases FileTree.leadsToFile_of_readText read with ⟨location, found⟩
  have readHere : world.tree.readText world.workingDirectory ⟨name⟩ = .ok text := by
    rw [← same, FileTree.readText_of_resolve (found.of_join isName leads).resolved found.resolved]
    exact read
  have place := (FileTree.resolve_eq_descend leads).symm
  have agree (left right : World) (leftSame : left.SameFiles elsewhere)
      (rightSame : right.SameFiles world) :
      Action.Agree (proceed arguments (config.basedAt (directory.join ⟨name⟩)) left)
        (proceed arguments (config.basedAt ⟨name⟩) right) := by
    have contexts :
        (config.basedAt (directory.join ⟨name⟩)).contextDirectory left.workingPath =
          (config.basedAt ⟨name⟩).contextDirectory right.workingPath := by
      rw [← leftSame.workingDirectory] at named place
      rw [← rightSame.workingDirectory] at place
      exact config.contextDirectory_basedAt named isName place
    rw [config.basedAt_eq_withContext, config.basedAt_eq_withContext ⟨name⟩] at contexts ⊢
    exact proceed_agree (leftSame.tree.trans (same.trans rightSame.tree.symm)) absolute contexts
  rcases exists_proceed_of_named arguments read decoded with ⟨left, leftSame, there⟩
  rw [there]
  constructor
  · rcases exists_proceed_of_named arguments readHere (ofFileText_congr decoded) with
      ⟨right, rightSame, here⟩
    rw [here]
    exact agree left right leftSame rightSame
  · rintro rfl
    rcases exists_proceed_of_unnamed arguments readHere (ofFileText_congr decoded) with
      ⟨right, rightSame, here⟩
    rw [here]
    exact agree left right leftSame rightSame

/-- A configuration file below the directory of the sources, which it names by a
relative path. -/
def nestedWorld : World where
  tree := ⟨[(["work"], .directory),
    (["work", "index.js"], .file "exports.v = require('./lib/v');".toUTF8),
    (["work", "lib"], .directory),
    (["work", "lib", "v.js"], .file "module.exports = 1;".toUTF8),
    (["work", "config"], .directory),
    (["work", "config", "tinypack.config.json"],
      .file "\x7b\"context\": \"../lib/..\", \"entry\": \"./index.js\"\x7d".toUTF8)]⟩
  workingDirectory := ["work", "config"]
  journal := []

def outerWorld : World :=
  { nestedWorld with workingDirectory := ["work", "lib"] }

theorem run_agree_elsewhere_nested :
    (run { Arguments.empty with config := some ⟨"./../config/tinypack.config.json"⟩ }
        outerWorld).1.toOption = some ["/work/dist/main.js"] ∧
      Action.Agree
        (run { Arguments.empty with config := some ⟨"./../config/tinypack.config.json"⟩ }
          outerWorld)
        (run Arguments.empty nestedWorld) := by
  have named : FileTree.Named outerWorld.workingDirectory := by
    intro name listed
    simp only [outerWorld, List.mem_cons, List.not_mem_nil, or_false] at listed
    rcases listed with rfl | rfl <;> exact ⟨by decide, by decide, by decide, by decide⟩
  have isName : Path.IsName Config.defaultFileName.toList :=
    ⟨by decide, by decide, by decide, by decide⟩
  have leads : outerWorld.tree.resolve outerWorld.workingDirectory ⟨"./../config"⟩ =
      .ok nestedWorld.workingDirectory := by
    decide +kernel
  have loads : ∃ config,
      (Config.load (Path.join ⟨"./../config"⟩ ⟨Config.defaultFileName⟩) outerWorld).1 =
        .ok config := by
    have succeeds : (Config.load (Path.join ⟨"./../config"⟩ ⟨Config.defaultFileName⟩)
        outerWorld).1.toOption.isSome = true := by
      decide +kernel
    rcases loaded : (Config.load (Path.join ⟨"./../config"⟩ ⟨Config.defaultFileName⟩)
        outerWorld).1 with cause | config
    · rw [loaded] at succeeds
      cases succeeds
    · exact ⟨config, rfl⟩
  have same : outerWorld.tree = nestedWorld.tree := rfl
  have absolute : ∀ context, Arguments.empty.context = some context →
      context.isAbsolute = true := nofun
  exact ⟨by decide +kernel, (run_agree_elsewhere same named leads isName loads absolute).2 rfl⟩

end Command

end ScriptBundle
