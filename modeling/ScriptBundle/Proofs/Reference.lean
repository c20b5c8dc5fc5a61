import ScriptBundle.Proofs.Requirement
import ScriptBundle.Proofs.Walk

/-!
# References and files

The references of a module are told by the files that its specifiers lead to:
each identifier is required once, where it comes first, and the file it comes
with is a dependency if the identifier was not known.

Whatever file a module is made from, or leads to, is a file of the tree.
-/

namespace ScriptBundle

namespace References

variable {identify : Path → String} {known : String → Bool}

def collect (identify : Path → String) (known : String → Bool) (references : References)
    (files : List Path) : References :=
  files.foldl (fun references file => references.add known (identify file) file) references

/-- What references say of the files they were collected from. -/
structure Cover (identify : Path → String) (known : String → Bool) (files : List Path)
    (references : References) : Prop where
  nodup_requires : references.requires.Nodup
  mem_requires : ∀ id, id ∈ references.requires ↔ ∃ file ∈ files, identify file = id
  dependencies_subset : references.dependencies ⊆ files
  map_dependencies :
    references.dependencies.map identify = references.requires.filter (!known ·)

/-- One more file is required at the end, if its identifier was not yet. -/
theorem Cover.add {files : List Path} {references : References}
    (cover : Cover identify known files references) (file : Path) :
    Cover identify known (files ++ [file]) (references.add known (identify file) file) := by
  rw [References.add]
  by_cases listed : identify file ∈ references.requires
  · rw [if_pos (by simpa using listed)]
    refine ⟨cover.nodup_requires, fun id => ?_, ?_, cover.map_dependencies⟩
    · rw [cover.mem_requires]
      constructor
      · rintro ⟨other, member, rfl⟩
        exact ⟨other, List.mem_append_left _ member, rfl⟩
      · rintro ⟨other, member, rfl⟩
        rcases List.mem_append.mp member with earlier | last
        · exact ⟨other, earlier, rfl⟩
        · rw [List.mem_singleton.mp last]
          exact (cover.mem_requires _).mp listed
    · intro other member
      exact List.mem_append_left _ (cover.dependencies_subset member)
  · rw [if_neg (by simpa using listed)]
    refine ⟨?_, fun id => ?_, ?_, ?_⟩
    · rw [List.nodup_append]
      refine ⟨cover.nodup_requires, by simp, fun id member last single => ?_⟩
      rw [List.mem_singleton.mp single]
      rintro rfl
      exact listed member
    · simp only [List.mem_append, List.mem_singleton, cover.mem_requires]
      constructor
      · rintro (⟨other, member, rfl⟩ | rfl)
        · exact ⟨other, .inl member, rfl⟩
        · exact ⟨file, .inr rfl, rfl⟩
      · rintro ⟨other, member | rfl, rfl⟩
        · exact .inl ⟨other, member, rfl⟩
        · exact .inr rfl
    · cases isKnown : known (identify file) with
      | true =>
          intro other member
          exact List.mem_append_left _ (cover.dependencies_subset member)
      | false =>
          intro other member
          rcases List.mem_append.mp member with earlier | last
          · exact List.mem_append_left _ (cover.dependencies_subset earlier)
          · exact List.mem_append_right _ last
    · cases isKnown : known (identify file) <;>
        simp [isKnown, cover.map_dependencies, List.filter_append]

theorem cover_collect (identify : Path → String) (known : String → Bool) (files : List Path) :
    Cover identify known files (collect identify known .none files) := by
  have more : ∀ (later earlier : List Path) (references : References),
      Cover identify known earlier references →
        Cover identify known (earlier ++ later) (collect identify known references later) := by
    intro later
    induction later with
    | nil =>
        intro earlier references cover
        simpa [collect] using cover
    | cons file rest induction =>
        intro earlier references cover
        simpa [collect] using induction _ _ (cover.add file)
  have nothing : Cover identify known [] .none :=
    ⟨by simp [References.none], by simp [References.none], by simp [References.none],
      by simp [References.none]⟩
  exact more files [] .none nothing

/-- References are gathered from specifiers that all lead to files, and are
those to these files. -/
theorem gather_eq_ok_iff {fileFor? : String → Option Path} {directory : Path}
    {specifiers : List String} {references gathered : References} :
    references.gather identify fileFor? directory known specifiers = .ok gathered ↔
      ∃ files, specifiers.mapM fileFor? = some files ∧
        collect identify known references files = gathered := by
  induction specifiers generalizing references with
  | nil => simp [gather, collect, pure, Except.pure]
  | cons specifier rest induction =>
      rw [gather, List.foldlM_cons, List.mapM_cons]
      cases found : fileFor? specifier with
      | none => simp [addFound, bind, Except.bind]
      | some file =>
          change gather identify fileFor? directory known rest
            (references.add known (identify file) file) = .ok gathered ↔ _
          rw [induction]
          cases rest.mapM fileFor? with
          | none => simp
          | some files => simp [collect]

end References

namespace ModuleBuilder

/-- The files that the module in a file leads to, one for each specifier, if
the file holds a script all of whose specifiers lead to files. -/
def requiredFiles? (builder : ModuleBuilder) (world : World) (path : Path) :
    Option (List Path) := do
  let text ← (builder.textOf world path).toOption
  let program ← Script.Program.read? text
  program.tree.specifiers.mapM (builder.linker.fileFor? world path.directory)

/-- One file leads to another by a specifier of its module. -/
def RequiresFile (builder : ModuleBuilder) (world : World) (path file : Path) : Prop :=
  ∃ files, builder.requiredFiles? world path = some files ∧ file ∈ files

/-- The references of a module are those to the files that it leads to. -/
theorem references_eq_ok_iff {builder : ModuleBuilder} {world : World}
    {known : String → Bool} {path : Path} {references : References} :
    builder.references world known path = .ok references ↔
      ∃ files, builder.requiredFiles? world path = some files ∧
        References.collect builder.idOf known .none files = references := by
  rw [ModuleBuilder.references, requiredFiles?]
  cases builder.textOf world path with
  | error cause => simp [bind, Except.bind, Except.toOption]
  | ok text =>
      simp only [bind, Except.bind, Except.toOption, Option.bind]
      cases Script.Program.read? text with
      | none => simp
      | some program => exact References.gather_eq_ok_iff

/-- References are told by the files of a world. -/
theorem references_congr (builder : ModuleBuilder) {left right : World}
    (same : left.SameFiles right) : builder.references left = builder.references right := by
  funext known path
  simp only [ModuleBuilder.references, textOf, Linker.gather, same.tree, same.workingDirectory,
    builder.linker.fileFor?_congr same]

/-- A module has a text only if its path leads to a file. -/
theorem leadsToFile_of_textOf {builder : ModuleBuilder} {world : World} {path : Path}
    {text : String} (made : builder.textOf world path = .ok text) :
    ∃ location, world.tree.LeadsToFile world.workingDirectory path location := by
  rw [textOf] at made
  cases read : world.tree.readText world.workingDirectory path with
  | error cause =>
      rw [read] at made
      cases made
  | ok raw => exact FileTree.leadsToFile_of_readText read

namespace Made

variable {builder : ModuleBuilder} {world : World} {known : String → Bool} {owner : String}
  {path file : Path} {added : Module}

theorem congr {other : World} (made : builder.Made world known owner path added)
    (same : world.SameFiles other) : builder.Made other known owner path added := by
  refine ⟨made.hasId, made.hasOwner, made.hasPath, ?_⟩
  rw [← builder.references_congr same]
  exact made.hasReferences

theorem cover (made : builder.Made world known owner path added) :
    ∃ files, builder.requiredFiles? world path = some files ∧
      References.Cover builder.idOf known files ⟨added.dependencies, added.requires⟩ := by
  rcases references_eq_ok_iff.mp made.hasReferences with ⟨files, required, collected⟩
  have cover := References.cover_collect builder.idOf known files
  rw [collected] at cover
  exact ⟨files, required, cover⟩

/-- A module requires the identifiers of the files it leads to. -/
theorem mem_requires_iff (made : builder.Made world known owner path added) (id : String) :
    id ∈ added.requires ↔
      ∃ file, builder.RequiresFile world path file ∧ builder.idOf file = id := by
  rcases made.cover with ⟨files, required, cover⟩
  rw [cover.mem_requires]
  constructor
  · rintro ⟨file, member, identified⟩
    exact ⟨file, ⟨files, required, member⟩, identified⟩
  · rintro ⟨file, ⟨others, again, member⟩, identified⟩
    cases required.symm.trans again
    exact ⟨file, member, identified⟩

theorem requiresFile (made : builder.Made world known owner path added)
    (dependency : file ∈ added.dependencies) : builder.RequiresFile world path file := by
  rcases made.cover with ⟨files, required, cover⟩
  exact ⟨files, required, cover.dependencies_subset dependency⟩

/-- A dependency is required. -/
theorem idOf_mem_requires (made : builder.Made world known owner path added)
    (dependency : file ∈ added.dependencies) : builder.idOf file ∈ added.requires :=
  (made.mem_requires_iff _).mpr ⟨file, made.requiresFile dependency, rfl⟩

/-- What a module requires was known, or is the identifier of a dependency. -/
theorem known_or_dependency (made : builder.Made world known owner path added) {id : String}
    (required : id ∈ added.requires) :
    known id = true ∨ ∃ file ∈ added.dependencies, builder.idOf file = id := by
  rcases made.cover with ⟨files, -, cover⟩
  cases isKnown : known id with
  | true => exact .inl rfl
  | false =>
      have listed : id ∈ added.dependencies.map builder.idOf := by
        rw [cover.map_dependencies]
        exact List.mem_filter.mpr ⟨required, by simp [isKnown]⟩
      exact .inr (List.mem_map.mp listed)

theorem leadsToFile (made : builder.Made world known owner path added) :
    ∃ location, world.tree.LeadsToFile world.workingDirectory path location := by
  have told := made.hasReferences
  rw [ModuleBuilder.references] at told
  cases read : builder.textOf world path with
  | error cause =>
      rw [read] at told
      cases told
  | ok text => exact leadsToFile_of_textOf read

end Made

theorem exists_specifier {fileFor? : String → Option Path} {specifiers : List String}
    {files : List Path} {file : Path} (found : specifiers.mapM fileFor? = some files)
    (member : file ∈ files) : ∃ specifier, fileFor? specifier = some file := by
  induction specifiers generalizing files with
  | nil =>
      cases found
      cases member
  | cons specifier rest induction =>
      rw [List.mapM_cons] at found
      rcases Option.bind_eq_some_iff.mp found with ⟨first, firstFound, later⟩
      rcases Option.bind_eq_some_iff.mp later with ⟨others, othersFound, whole⟩
      cases whole
      rcases List.mem_cons.mp member with rfl | deeper
      · exact ⟨specifier, firstFound⟩
      · exact induction othersFound deeper

namespace RequiresFile

variable {builder : ModuleBuilder} {world : World} {path file : Path}

theorem fileFor (required : builder.RequiresFile world path file) :
    ∃ specifier, builder.linker.fileFor? world path.directory specifier = some file := by
  rcases required with ⟨files, told, member⟩
  rw [requiredFiles?] at told
  rcases Option.bind_eq_some_iff.mp told with ⟨text, -, told⟩
  rcases Option.bind_eq_some_iff.mp told with ⟨program, -, told⟩
  exact exists_specifier told member

theorem leadsToFile (required : builder.RequiresFile world path file) :
    ∃ location, world.tree.LeadsToFile world.workingDirectory file location := by
  rcases required.fileFor with ⟨specifier, found⟩
  exact FileTree.isFile_iff.mp (List.find?_some found)

end RequiresFile

end ModuleBuilder

end ScriptBundle
