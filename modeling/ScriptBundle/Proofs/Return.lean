import ScriptBundle.Proofs.Detached
import ScriptBundle.Proofs.Joining

/-!
# Identifiers as specifiers

The identifier of a file spells the route to it from the root, and is a relative
specifier for that reason.  Followed from the root it leads back to the file,
wherever the file is: the route goes up from the root as far as it has to and
then down, and normalizing the joined path cancels what it went up.
-/

namespace ScriptBundle

namespace Path

variable {root file : Path}

theorem isAbsolute_identifier (root file : Path) :
    (⟨identifier root file⟩ : Path).isAbsolute = false := by
  rw [identifier_eq, isAbsolute, characters, String.toList_append]
  rfl

/-- The first step of an identifier leads nowhere else. -/
theorem steps_here_append (path : Path) : (⟨"./" ++ path.text⟩ : Path).steps = path.steps := by
  have spelled : characters ⟨"./" ++ path.text⟩ = ['.'] ++ '/' :: path.characters := by
    rw [characters, String.toList_append]
    rfl
  change stepsOf (segmentsOf _) = stepsOf _
  rw [spelled, segmentsOf_append, stepsOf_append]
  rfl

theorem steps_ofComponents {parts : List Component} (areSteps : ∀ part ∈ parts, IsStep part) :
    (ofComponents parts).steps = parts := by
  rcases components_of_not_isAbsolute (isAbsolute_ofComponents_steps areSteps) with shape | shape
  · rw [← shape, components_ofComponents_steps areSteps]
  · rw [components_ofComponents_steps areSteps] at shape
    have leading : IsStep .here := areSteps _ (shape ▸ List.mem_cons_self)
    cases leading

/-- The identifier of a file without backslashes makes the steps of a route to
it. -/
theorem descend_identifier (rootAbsolute : root.isAbsolute = true)
    (rootNormal : root.normalize.components = root.components)
    (absolute : file.isAbsolute = true) (plain : file.HasNoBackslash) :
    FileTree.descend root.place (⟨identifier root file⟩ : Path).steps = file.place := by
  rcases exists_route rootAbsolute rootNormal absolute with ⟨parts, routed, areSteps, leads⟩
  rw [identifier_eq, slashed_route plain, steps_here_append, routed, steps_ofComponents areSteps,
    leads]

/-- An identifier that is joined to the root is a path to its file. -/
theorem normalize_join_identifier (rootAbsolute : root.isAbsolute = true)
    (rootNormal : root.normalize.components = root.components)
    (absolute : file.isAbsolute = true) (plain : file.HasNoBackslash) :
    (root.join ⟨identifier root file⟩).normalize = file.normalize := by
  have joinedAbsolute := isAbsolute_join rootAbsolute ⟨identifier root file⟩
  have place : (root.join ⟨identifier root file⟩).place = file.place := by
    rw [Path.place, components_of_isAbsolute joinedAbsolute,
      steps_join (isAbsolute_identifier root file), ← List.cons_append,
      ← components_of_isAbsolute rootAbsolute, FileTree.descend_append]
    exact descend_identifier rootAbsolute rootNormal absolute plain
  rw [FileTree.normalize_of_isAbsolute joinedAbsolute, FileTree.normalize_of_isAbsolute absolute,
    place]

end Path

namespace Build

variable {extensions : List String} {directory file root : Path} {specifier : String}
  {world later : World}

theorem append_empty (path : Path) : path.append "" = path :=
  congrArg Path.mk String.append_empty

/-- What a specifier leads to is one of its candidates and a file. -/
theorem mem_candidates_of_resolve
    (found : (resolve extensions directory specifier world).1 = .ok file) :
    file ∈ candidates extensions directory specifier ∧
      ∃ location, world.tree.LeadsToFile world.workingDirectory file location := by
  have told := Linker.resolve_fst ⟨directory, extensions⟩ directory specifier world
  dsimp only at told
  rw [found] at told
  cases chosen : Linker.fileFor? ⟨directory, extensions⟩ world directory specifier with
  | none =>
      rw [chosen] at told
      cases told
  | some path =>
      rw [chosen] at told
      cases told
      exact ⟨List.mem_of_find?_eq_some chosen, FileTree.isFile_iff.mp (List.find?_some chosen)⟩

/-- A specifier whose path is a file leads there, whatever the extensions. -/
theorem resolve_of_isFile
    (isFile : later.tree.isFile later.workingDirectory (directory.join ⟨specifier⟩).normalize =
      true) (extensions : List String) :
    (resolve extensions directory specifier later).1 =
      .ok (directory.join ⟨specifier⟩).normalize := by
  have told := Linker.resolve_fst ⟨directory, extensions⟩ directory specifier later
  have first : Linker.fileFor? ⟨directory, extensions⟩ later directory specifier =
      some (directory.join ⟨specifier⟩).normalize := by
    rw [Linker.fileFor?, candidates, List.map_cons, append_empty, List.find?_cons_of_pos isFile]
  rw [told, first]

/-- The identifier of a file that was found from some directory leads back to it
from the root, in the same tree and whatever the extensions. -/
theorem resolve_identifier (rootAbsolute : root.isAbsolute = true)
    (rootNormal : root.normalize.sameSteps root = true) (absolute : directory.isAbsolute = true)
    (found : (resolve extensions directory specifier world).1 = .ok file)
    (plain : '\\' ∉ file.text.toList) (sameTree : later.tree = world.tree)
    (others : List String) :
    (resolve others root (Path.identifier root file) later).1 = .ok file.normalize ∧
      ∃ location, world.tree.LeadsToFile world.workingDirectory file location ∧
        later.tree.LeadsToFile later.workingDirectory file.normalize location := by
  rcases mem_candidates_of_resolve found with ⟨candidate, location, leads⟩
  have fileAbsolute : file.isAbsolute = true := by
    rcases List.mem_map.mp candidate with ⟨extension, -, rfl⟩
    refine Path.isAbsolute_prolonged ?_ extension
    rw [Path.isAbsolute_normalize]
    exact Path.isAbsolute_join absolute _
  have joined := Path.normalize_join_identifier rootAbsolute (of_decide_eq_true rootNormal)
    fileAbsolute (Path.hasNoBackslash_of_not_mem plain)
  have normalAbsolute : file.normalize.isAbsolute = true := by
    rw [Path.isAbsolute_normalize, fileAbsolute]
  -- an absolute path leads to the same place in whatever directory the world is
  have elsewhere : later.tree.LeadsToFile later.workingDirectory file.normalize location := by
    rw [sameTree]
    exact leads.normalize.of_isAbsolute normalAbsolute _
  refine ⟨?_, location, leads, elsewhere⟩
  rw [← joined]
  apply resolve_of_isFile
  rw [joined]
  exact FileTree.isFile_iff.mpr ⟨location, elsewhere⟩

/-- A file beside an empty directory. -/
def besideWorld : World where
  tree := ⟨[(["work"], .directory), (["work", "lib"], .directory),
    (["work", "main.js"], .file "".toUTF8)]⟩
  workingDirectory := ["work"]
  journal := []

/-- A file that is found by an extension with steps of its own is found again,
by its normalized path and without the extension, from a root that it is not
below. -/
theorem resolve_identifier_beside :
    (resolve ["/../main.js"] ⟨"/work"⟩ "lib" besideWorld).1 = .ok ⟨"/work/lib/../main.js"⟩ ∧
      Path.identifier ⟨"/work/app/"⟩ ⟨"/work/lib/../main.js"⟩ = "./../main.js" ∧
      (resolve [] ⟨"/work/app/"⟩ "./../main.js" besideWorld).1 = .ok ⟨"/work/main.js"⟩ := by
  have found : (resolve ["/../main.js"] ⟨"/work"⟩ "lib" besideWorld).1 =
      .ok ⟨"/work/lib/../main.js"⟩ := by decide +kernel
  have identified : Path.identifier ⟨"/work/app/"⟩ ⟨"/work/lib/../main.js"⟩ = "./../main.js" := by
    decide +kernel
  have normalized : (⟨"/work/lib/../main.js"⟩ : Path).normalize = ⟨"/work/main.js"⟩ := by
    decide +kernel
  have again : (resolve [] ⟨"/work/app/"⟩
      (Path.identifier ⟨"/work/app/"⟩ ⟨"/work/lib/../main.js"⟩) besideWorld).1 =
        .ok (Path.normalize ⟨"/work/lib/../main.js"⟩) :=
    (resolve_identifier (by decide +kernel) (by decide +kernel) (by decide +kernel) found
      (by decide +kernel) rfl []).1
  rw [identified, normalized] at again
  exact ⟨found, identified, again⟩

end Build

end ScriptBundle
