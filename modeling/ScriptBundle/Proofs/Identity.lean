import Mathlib.Data.List.TakeWhile
import ScriptBundle.Proofs.Route
import ScriptBundle.Proofs.Run

/-!
# Identifiers and files

A run names files by the paths of its entries and by the files that specifiers
lead to.  All of these paths are absolute.  An identifier stands for one file
among them exactly if no two of their routes become one when backslashes are
turned into slashes.
-/

namespace ScriptBundle

namespace Path

theorem isAbsolute_prolonged {path : Path} (absolute : path.isAbsolute = true) (more : String) :
    (⟨path.text ++ more⟩ : Path).isAbsolute = true := by
  rcases isAbsolute_iff.mp absolute with ⟨rest, spelled⟩
  refine isAbsolute_iff.mpr ⟨rest ++ more.toList, ?_⟩
  rw [characters] at spelled ⊢
  rw [String.toList_append, spelled, List.cons_append]

/-- What is joined to an absolute path is absolute. -/
theorem isAbsolute_join {base : Path} (absolute : base.isAbsolute = true) (path : Path) :
    (base.join path).isAbsolute = true := by
  rw [join]
  split
  · next given => exact given
  · split
    · exact isAbsolute_prolonged absolute _
    · rw [String.append_assoc]
      exact isAbsolute_prolonged absolute _

/-- There is a directory above an absolute path that makes a step. -/
theorem exists_parent {path : Path} (absolute : path.isAbsolute = true)
    (nonempty : path.steps ≠ []) : ∃ above, path.parent = some above := by
  rcases isAbsolute_iff.mp absolute with ⟨body, spelled⟩
  rw [parent]
  simp only [absolute, if_true, List.length_singleton, spelled, List.drop_one, List.tail_cons]
  cases kept : (segmentsOf body).reverse.dropWhile isBlank with
  | nil =>
      have blank := List.dropWhile_eq_nil_iff.mp kept
      refine absurd ?_ nonempty
      rw [steps, spelled, segmentsOf_slash_cons, List.filter_cons_of_neg (by decide),
        List.map_eq_nil_iff, List.filter_eq_nil_iff]
      intro segment member
      simp [blank segment (List.mem_reverse.mpr member)]
  | cons last before => exact ⟨_, rfl⟩

theorem isAbsolute_directory {path : Path} (absolute : path.isAbsolute = true)
    (nonempty : path.steps ≠ []) : path.directory.isAbsolute = true := by
  rcases exists_parent absolute nonempty with ⟨above, found⟩
  rw [directory, found]
  exact isAbsolute_of_parent absolute found

end Path

theorem FileTree.LeadsToFile.steps_ne_nil {tree : FileTree}
    {workingDirectory location : Location} {path : Path}
    (leads : tree.LeadsToFile workingDirectory path location) (absolute : path.isAbsolute = true) :
    path.steps ≠ [] := by
  intro none
  rcases leads.isFile with ⟨content, isFile⟩
  have place := resolve_eq_descend leads.resolved
  rw [Path.components_of_isAbsolute absolute, none, origin, if_pos absolute] at place
  rw [place] at isFile
  simp [descend, move, entryAt] at isFile

/-- A module at an absolute path requires files at absolute paths. -/
theorem ModuleBuilder.RequiresFile.isAbsolute {builder : ModuleBuilder} {world : World}
    {path file : Path} {location : Location} (required : builder.RequiresFile world path file)
    (leads : world.tree.LeadsToFile world.workingDirectory path location)
    (absolute : path.isAbsolute = true) : file.isAbsolute = true := by
  rcases required.fileFor with ⟨specifier, found⟩
  have candidate := List.mem_of_find?_eq_some found
  rcases List.mem_map.mp candidate with ⟨extension, -, rfl⟩
  refine Path.isAbsolute_prolonged ?_ extension
  rw [Path.isAbsolute_normalize]
  exact Path.isAbsolute_join
    (Path.isAbsolute_directory absolute (leads.steps_ne_nil absolute)) _

namespace Bundler

variable {bundler : Bundler} {world final : World}

/-- A build whose root is absolute and normalized. -/
structure Rooted (bundler : Bundler) : Prop where
  absolute : bundler.context.isAbsolute = true
  normal : bundler.context.normalize = bundler.context

/-- A described build has the configuration it was described by, and starts from
the directory that this names. -/
theorem ofConfig_ok {registry : LoaderRegistry} {config : Config}
    (described : ofConfig registry config world = (.ok bundler, final)) :
    bundler.config = config ∧ bundler.context = config.contextDirectory world.workingPath := by
  rw [ofConfig] at described
  rcases Action.bind_ok described with ⟨start, reading, got, afterStart⟩
  rcases Action.bind_ok afterStart with ⟨pipeline, linking, -, afterPipeline⟩
  rcases Action.bind_ok afterPipeline with ⟨plugins, naming, -, afterPlugins⟩
  rcases Action.bind_ok afterPlugins with ⟨taps, attaching, -, returned⟩
  cases got
  cases returned
  exact ⟨rfl, rfl⟩

theorem isAbsolute_workingPath (world : World) : world.workingPath.isAbsolute = true := by
  simp [World.workingPath, Path.isAbsolute, Path.characters, String.toList_append]

/-- The context of a described run is absolute, and so is its output directory. -/
theorem rooted_ofConfig {registry : LoaderRegistry} {config : Config}
    (described : ofConfig registry config world = (.ok bundler, final)) : bundler.Rooted := by
  have context := (ofConfig_ok described).2
  rw [Config.contextDirectory] at context
  cases given : config.context with
  | none =>
      rw [given] at context
      exact ⟨by rw [context, Path.isAbsolute_normalize, isAbsolute_workingPath],
        by rw [context, Path.normalize_normalize]⟩
  | some directory =>
      rw [given] at context
      refine ⟨?_, by rw [context, Path.normalize_normalize]⟩
      rw [context, Path.isAbsolute_normalize, Path.isAbsolute_join (isAbsolute_workingPath world)]

theorem Rooted.withTaps (rooted : bundler.Rooted) (taps : Taps) :
    Rooted { bundler with taps := taps } :=
  ⟨rooted.absolute, rooted.normal⟩

theorem Rooted.isAbsolute_entryPath (rooted : bundler.Rooted) (path : String) :
    (bundler.entryPath path).isAbsolute = true := by
  rw [entryPath, Path.isAbsolute_normalize]
  exact Path.isAbsolute_join rooted.absolute _

/-- The path of an entry is normalized already. -/
theorem normalize_entryPath (bundler : Bundler) (path : String) :
    (bundler.entryPath path).normalize = bundler.entryPath path :=
  Path.normalize_normalize _

/-- A path is given by an entry, or a specifier of a built module leads to it. -/
inductive Names (bundler : Bundler) (world : World) (table : ModuleTable) : Path → Prop where
  | entry {entry : String × String} (listed : entry ∈ bundler.config.entries.toList) :
      Names bundler world table (bundler.entryPath entry.2)
  | required {member : Module} {file : Path} (inside : member ∈ table.modules)
      (required : bundler.moduleBuilder.RequiresFile world member.path file) :
      Names bundler world table file

/-- Two paths lead to one file. -/
def SameFile (world : World) (path other : Path) : Prop :=
  ∃ location, world.tree.LeadsToFile world.workingDirectory path location ∧
    world.tree.LeadsToFile world.workingDirectory other location

/-- Identifiers stand for files. -/
structure IdentifiesFiles (bundler : Bundler) (world : World) (table : ModuleTable) : Prop where
  /-- Named paths have one identifier if they lead to one file. -/
  same_iff : ∀ path other, bundler.Names world table path → bundler.Names world table other →
    (bundler.moduleBuilder.idOf path = bundler.moduleBuilder.idOf other ↔ SameFile world path other)
  /-- The module that is embedded for a specifier is made of the file that the
  specifier leads to. -/
  embedded : ∀ member ∈ table.modules, ∀ file,
    bundler.moduleBuilder.RequiresFile world member.path file →
      bundler.moduleBuilder.idOf file ∈ member.requires ∧
        ∃ other, table.get? (bundler.moduleBuilder.idOf file) = some other ∧
          SameFile world other.path file

/-- The routes to named paths differ in more than backslashes. -/
def RoutesApart (bundler : Bundler) (world : World) (table : ModuleTable) : Prop :=
  ∀ path other, bundler.Names world table path → bundler.Names world table other →
    Path.slashed (Path.route bundler.context path).text =
        Path.slashed (Path.route bundler.context other).text →
      Path.route bundler.context path = Path.route bundler.context other

theorem routesApart_of_no_backslash {table : ModuleTable}
    (absent : ∀ path, bundler.Names world table path →
      '\\' ∉ (Path.route bundler.context path).text.toList) :
    bundler.RoutesApart world table := by
  intro path other names otherNames slashed
  rw [Path.slashed_of_not_mem (absent path names),
    Path.slashed_of_not_mem (absent other otherNames)] at slashed
  exact congrArg Path.mk slashed

/-- Identifiers are routes from the context, with slashes for backslashes. -/
theorem idOf_eq_iff (bundler : Bundler) (path other : Path) :
    bundler.moduleBuilder.idOf path = bundler.moduleBuilder.idOf other ↔
      Path.slashed (Path.route bundler.context path).text =
        Path.slashed (Path.route bundler.context other).text :=
  Path.identifier_eq_iff

namespace Progress

variable {state : BuildState} {points : List EntryPoint}

/-- A run names every file that its entries lead to. -/
theorem names_of_leads (rooted : bundler.Rooted)
    (progress : bundler.Progress world bundler.config.entries.toList (state, points))
    {entry : String × String} (listed : entry ∈ bundler.config.entries.toList) {file : Path}
    (leads : state.modules.Leads (bundler.entryPath entry.2) file) :
    bundler.Names world state.modules file ∧ file.isAbsolute = true := by
  induction leads with
  | refl => exact ⟨.entry listed, rooted.isAbsolute_entryPath _⟩
  | tail _ finds induction =>
      rcases finds with ⟨member, inside, rfl, dependency⟩
      rcases progress.built member inside with ⟨known, made⟩
      rcases made.leadsToFile with ⟨location, leads⟩
      have required := made.requiresFile dependency
      exact ⟨.required inside required, required.isAbsolute leads induction.2⟩

theorem names_path (rooted : bundler.Rooted)
    (progress : bundler.Progress world bundler.config.entries.toList (state, points))
    {member : Module} (inside : member ∈ state.modules.modules) :
    bundler.Names world state.modules member.path ∧ member.path.isAbsolute = true := by
  rcases progress.found member inside with ⟨entry, listed, -, leads⟩
  exact progress.names_of_leads rooted listed leads

/-- All paths that a run names are absolute. -/
theorem isAbsolute_of_names (rooted : bundler.Rooted)
    (progress : bundler.Progress world bundler.config.entries.toList (state, points))
    {path : Path} (names : bundler.Names world state.modules path) : path.isAbsolute = true := by
  cases names with
  | entry listed => exact rooted.isAbsolute_entryPath _
  | required inside required =>
      rcases progress.built _ inside with ⟨known, made⟩
      rcases made.leadsToFile with ⟨location, leads⟩
      exact required.isAbsolute leads (progress.names_path rooted inside).2

/-- If routes are apart then every named path leads to a file. -/
theorem leadsToFile_of_names (rooted : bundler.Rooted)
    (progress : bundler.Progress world bundler.config.entries.toList (state, points))
    (apart : bundler.RoutesApart world state.modules) {path : Path}
    (names : bundler.Names world state.modules path) :
    ∃ location, world.tree.LeadsToFile world.workingDirectory path location := by
  cases names with
  | required inside required => exact required.leadsToFile
  | @entry entry listed =>
      -- the module with the identifier of the entry is made of the file of the entry
      rcases ModuleTable.contains_iff.mp (progress.contained entry listed) with
          ⟨member, inside, sameId⟩
      rcases progress.built member inside with ⟨known, made⟩
      rcases made.leadsToFile with ⟨location, leads⟩
      rcases progress.names_path rooted inside with ⟨names, absolute⟩
      rw [made.hasId] at sameId
      have sameRoute := apart _ _ names (.entry listed) ((bundler.idOf_eq_iff _ _).mp sameId)
      have sameNormal := Path.normalize_eq_of_route_eq rooted.absolute rooted.normal absolute
        (rooted.isAbsolute_entryPath _) sameRoute
      rw [normalize_entryPath] at sameNormal
      exact ⟨location, sameNormal ▸ leads.normalize⟩

theorem identifiesFiles_iff (rooted : bundler.Rooted)
    (progress : bundler.Progress world bundler.config.entries.toList (state, points)) :
    bundler.IdentifiesFiles world state.modules ↔ bundler.RoutesApart world state.modules := by
  constructor
  · intro identifies path other names otherNames slashed
    have sameId := (bundler.idOf_eq_iff path other).mpr slashed
    rcases (identifies.same_iff path other names otherNames).mp sameId with
        ⟨location, leads, otherLeads⟩
    exact (leads.eq_iff_route_eq rooted.absolute rooted.normal
      (progress.isAbsolute_of_names rooted names) otherLeads
      (progress.isAbsolute_of_names rooted otherNames)).mp rfl
  · intro apart
    have same_iff : ∀ path other, bundler.Names world state.modules path →
        bundler.Names world state.modules other →
        (bundler.moduleBuilder.idOf path = bundler.moduleBuilder.idOf other ↔
          SameFile world path other) := by
      intro path other names otherNames
      rcases progress.leadsToFile_of_names rooted apart names with ⟨place, leads⟩
      rcases progress.leadsToFile_of_names rooted apart otherNames with ⟨otherPlace, otherLeads⟩
      have sameRoute := leads.eq_iff_route_eq rooted.absolute rooted.normal
        (progress.isAbsolute_of_names rooted names) otherLeads
        (progress.isAbsolute_of_names rooted otherNames)
      constructor
      · intro sameId
        have samePlace := sameRoute.mpr
          (apart path other names otherNames ((bundler.idOf_eq_iff _ _).mp sameId))
        exact ⟨place, leads, samePlace ▸ otherLeads⟩
      · rintro ⟨location, first, second⟩
        have route := sameRoute.mp ((leads.unique first).trans (second.unique otherLeads))
        rw [idOf_eq_iff, route]
    refine ⟨same_iff, fun member inside file required => ?_⟩
    rcases progress.built member inside with ⟨known, made⟩
    have needed := (made.mem_requires_iff _).mpr ⟨file, required, rfl⟩
    rcases Option.isSome_iff_exists.mp (progress.satisfied member inside _ needed) with
        ⟨other, found⟩
    rcases ModuleTable.get?_eq_some found with ⟨otherInside, sameId⟩
    rcases progress.built other otherInside with ⟨otherKnown, otherMade⟩
    rw [otherMade.hasId] at sameId
    exact ⟨needed, other, found, (same_iff _ _ (progress.names_path rooted otherInside).1
      (.required inside required)).mp sameId⟩

end Progress

/-- Identifiers stand for files wherever no route has a backslash. -/
theorem run_identifiesFiles_of_no_backslash {result : BuildResult} (rooted : bundler.Rooted)
    (succeeded : bundler.run world = (.ok result, final))
    (absent : ∀ path, bundler.Names (bundler.buildWorld world) result.modules path →
      '\\' ∉ (Path.route bundler.context path).text.toList) :
    bundler.IdentifiesFiles (bundler.buildWorld world) result.modules := by
  rcases run_ok succeeded with ⟨state, modules, progress, -, -⟩
  rw [← modules] at absent ⊢
  exact (progress.identifiesFiles_iff rooted).mpr (routesApart_of_no_backslash absent)

/-- In a run that succeeds, of any configuration with any taps, an identifier
stands for one file exactly if no two named paths have different routes that
become one when backslashes are turned into slashes. -/
theorem run_identifiesFiles_iff {registry : LoaderRegistry} {config : Config}
    {start begun : World} {described : Bundler} {result : BuildResult}
    (configured : ofConfig registry config start = (.ok described, begun)) (taps : Taps)
    (succeeded : run { described with taps := taps } world = (.ok result, final)) :
    let bundler : Bundler := { described with taps := taps }
    bundler.IdentifiesFiles (bundler.buildWorld world) result.modules ↔
      bundler.RoutesApart (bundler.buildWorld world) result.modules := by
  have rooted := rooted_ofConfig configured
  rcases run_ok succeeded with ⟨state, modules, progress, -, -⟩
  dsimp only
  rw [← modules]
  exact progress.identifiesFiles_iff ⟨rooted.absolute, rooted.normal⟩

/-- A module that requires two files, one of which has a backslash in its
name where the other has a slash. -/
def backslashWorld : World where
  tree := ⟨[(["work"], .directory),
    (["work", "a"], .directory),
    (["work", "index.js"], .file "require('./a/b'); require('./a\\\\b');".toUTF8),
    (["work", "a", "b.js"], .file "1;".toUTF8),
    (["work", "a\\b.js"], .file "2;".toUTF8)]⟩
  workingDirectory := ["work"]
  journal := []

def backslashConfig : Config :=
  { Config.default with entries := .single "./index.js" }

def backslashBundler : Bundler :=
  ⟨backslashConfig, backslashConfig.contextDirectory backslashWorld.workingPath, ⟨[]⟩, .none⟩

theorem ofConfig_backslash :
    ofConfig .empty backslashConfig backslashWorld = (.ok backslashBundler, backslashWorld) :=
  rfl

theorem run_backslash :
    ((backslashBundler.run backslashWorld).1.map fun result =>
      result.modules.modules.map fun member => (member.id, member.path)).toOption =
        some [("./index.js", ⟨"/work/index.js"⟩), ("./a/b.js", ⟨"/work/a/b.js"⟩)] := by
  decide +kernel

theorem run_identifiesFiles_iff_backslash :
    ∃ result final, backslashBundler.run backslashWorld = (.ok result, final) ∧
      (backslashBundler.IdentifiesFiles (backslashBundler.buildWorld backslashWorld)
          result.modules ↔
        backslashBundler.RoutesApart (backslashBundler.buildWorld backslashWorld)
          result.modules) := by
  have evaluated := run_backslash
  rcases ran : backslashBundler.run backslashWorld with ⟨cause | result, final⟩
  · rw [ran] at evaluated
    cases evaluated
  · exact ⟨result, final, rfl,
      run_identifiesFiles_iff ofConfig_backslash .none ran⟩

/-- Two files that the run names have one identifier. -/
theorem backslash_confuses_files :
    ∃ result final, backslashBundler.run backslashWorld = (.ok result, final) ∧
      ∃ path other,
        backslashBundler.Names (backslashBundler.buildWorld backslashWorld) result.modules path ∧
        backslashBundler.Names (backslashBundler.buildWorld backslashWorld) result.modules other ∧
        backslashBundler.moduleBuilder.idOf path = backslashBundler.moduleBuilder.idOf other ∧
        ¬ SameFile (backslashBundler.buildWorld backslashWorld) path other := by
  have evaluated := run_backslash
  have required : backslashBundler.moduleBuilder.requiredFiles? backslashWorld ⟨"/work/index.js"⟩ =
      some [⟨"/work/a/b.js"⟩, ⟨"/work/a\\b.js"⟩] := by
    decide +kernel
  have resolved : backslashWorld.tree.resolve backslashWorld.workingDirectory ⟨"/work/a/b.js"⟩ =
      .ok ["work", "a", "b.js"] := by
    decide +kernel
  have otherResolved :
      backslashWorld.tree.resolve backslashWorld.workingDirectory ⟨"/work/a\\b.js"⟩ =
        .ok ["work", "a\\b.js"] := by
    decide +kernel
  rcases ran : backslashBundler.run backslashWorld with ⟨cause | result, final⟩
  · rw [ran] at evaluated
    cases evaluated
  · rw [ran] at evaluated
    have modules : (result.modules.modules.map fun member => (member.id, member.path)) =
        [("./index.js", ⟨"/work/index.js"⟩), ("./a/b.js", ⟨"/work/a/b.js"⟩)] :=
      Option.some.inj evaluated
    have listed : ("./index.js", (⟨"/work/index.js"⟩ : Path)) ∈
        result.modules.modules.map fun member => (member.id, member.path) := by
      rw [modules]
      exact List.mem_cons_self
    rcases List.mem_map.mp listed with ⟨member, inside, same⟩
    rcases Prod.mk.inj same with ⟨-, path⟩
    rw [← path] at required
    refine ⟨result, final, rfl, ⟨"/work/a/b.js"⟩, ⟨"/work/a\\b.js"⟩, ?_, ?_, ?_, ?_⟩
    · exact .required inside ⟨_, required, List.mem_cons_self⟩
    · exact .required inside ⟨_, required, List.mem_cons_of_mem _ List.mem_cons_self⟩
    · decide +kernel
    · rintro ⟨location, first, second⟩
      have here := Except.ok.inj (first.resolved.symm.trans resolved)
      have there := Except.ok.inj (second.resolved.symm.trans otherResolved)
      rw [here] at there
      exact absurd there (by decide)

end Bundler

end ScriptBundle
