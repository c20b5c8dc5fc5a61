import Mathlib.Data.List.Forall2
import Mathlib.Data.List.Induction
import ScriptBundle.Proofs.Parsing
import ScriptBundle.Proofs.Reference

/-!
# Exact rewriting

Linking a script either fails at the first dependency that leads nowhere, or
replaces the specifier of every dependency by the identifier it leads to and
changes nothing else.  The identifiers are required in the order in which the
dependencies are visited, each once; the files that come first with the
identifiers that were not known are the dependencies.  What is known decides
about nothing but these files.
-/

namespace ScriptBundle

namespace References

variable {identify : Path → String} {known : String → Bool}

/-- The references of files in the order in which the files were found. -/
structure Collected (identify : Path → String) (known : String → Bool) (files : List Path)
    (references : References) : Prop where
  requires : references.requires = (files.map identify).eraseDups
  dependencies : List.Forall₂
    (fun id file => files.find? (fun other => identify other = id) = some file)
    (references.requires.filter (!known ·)) references.dependencies

theorem Collected.add {files : List Path} {references : References}
    (collected : Collected identify known files references) (file : Path) :
    Collected identify known (files ++ [file]) (references.add known (identify file) file) := by
  have kept : List.Forall₂
      (fun id found => (files ++ [file]).find? (fun other => identify other = id) = some found)
      (references.requires.filter (!known ·)) references.dependencies := by
    apply collected.dependencies.imp
    intro id found told
    rw [List.find?_append, told]
    rfl
  have grown : ((files ++ [file]).map identify).eraseDups =
      references.requires ++ ([identify file].removeAll references.requires).eraseDups := by
    rw [List.map_append, List.eraseDups_append, collected.requires]
    congr 2
    simp [List.removeAll]
  rw [References.add]
  by_cases listed : identify file ∈ references.requires
  · rw [if_pos (by simpa using listed)]
    refine ⟨?_, kept⟩
    rw [grown]
    simp [List.removeAll, listed]
  · rw [if_neg (by simpa using listed)]
    have fresh : ∀ other ∈ files, identify other ≠ identify file := by
      intro other member same
      apply listed
      rw [collected.requires, List.mem_eraseDups, ← same]
      exact List.mem_map_of_mem member
    refine ⟨?_, ?_⟩
    · rw [grown]
      simp [List.removeAll, listed, List.eraseDups_cons]
    · dsimp only
      rw [List.filter_append]
      cases isKnown : known (identify file) with
      | true => simpa [isKnown] using kept
      | false =>
          have last : (files ++ [file]).find? (fun other => identify other = identify file) =
              some file := by
            rw [List.find?_append, List.find?_eq_none.mpr (by simpa using fresh)]
            simp
          simpa [isKnown] using List.rel_append kept (.cons last .nil)

theorem collected_collect (identify : Path → String) (known : String → Bool)
    (files : List Path) : Collected identify known files (collect identify known .none files) := by
  induction files using List.reverseRecOn with
  | nil => exact ⟨rfl, .nil⟩
  | append_singleton files file induction =>
      rw [collect, List.foldl_append]
      exact induction.add file

/-- Specifiers that do not all lead to files have a first that leads nowhere, and
gathering fails at it. -/
theorem gather_of_not_found {fileFor? : String → Option Path} {specifiers : List String}
    (missing : specifiers.mapM fileFor? = Option.none) :
    ∃ specifier, specifiers.find? (fun specifier => (fileFor? specifier).isNone) = some specifier ∧
      ∀ identify directory known references,
        gather identify fileFor? directory known specifiers references =
          .error (.resolution specifier directory) := by
  induction specifiers with
  | nil => cases missing
  | cons specifier rest induction =>
      rw [List.mapM_cons] at missing
      rw [List.find?_cons]
      cases told : fileFor? specifier with
      | none =>
          refine ⟨specifier, rfl, ?_⟩
          intro identify directory known references
          rw [gather, List.foldlM_cons, told]
          rfl
      | some file =>
          have later : rest.mapM fileFor? = Option.none := by
            rw [told] at missing
            cases others : rest.mapM fileFor? with
            | none => rfl
            | some files =>
                rw [others] at missing
                cases missing
          rcases induction later with ⟨first, found, fails⟩
          refine ⟨first, found, ?_⟩
          intro identify directory known references
          rw [gather, List.foldlM_cons, told]
          exact fails identify directory known _

end References

/-- The dependencies of a tree, each once and in the order of their positions:
all plain calls of `require` with a string, however deep.  The specifier of each
is what its string spells. -/
structure Script.Node.Visits (tree : Script.Node) (sites : List (List Nat × String)) : Prop where
  mem_iff : ∀ position specifier,
    (position, specifier) ∈ sites ↔ tree.DependsAt position specifier
  ordered : sites.Pairwise fun site later => site.1 < later.1
  spelled : ∀ position specifier, tree.DependsAt position specifier →
    ∃ spelling start finish,
      tree.faceAt? (position ++ [1]) = some ⟨.string (some spelling) specifier, start, finish⟩ ∧
        Script.Spells spelling specifier

theorem Script.Node.IsWritten.visits_sites {tree : Script.Node} (written : tree.IsWritten) :
    tree.Visits tree.sites where
  mem_iff := fun _ _ => mem_sites_iff.trans written.isPlain.visitedAt_iff
  ordered := pairwise_sites tree
  spelled := fun _ _ => written.spells

namespace Linker

/-- What linking makes of a script whose dependencies lead to the given files,
and what it tells of these files. -/
structure Rewrites (linker : Linker) (world : World) (directory : Path) (known : String → Bool)
    (program : Script.Program) (sites : List (List Nat × String)) (files : List Path)
    (linked : LinkedModule) : Prop where
  found : sites.map (fun site => linker.fileFor? world directory site.2) = files.map some
  code : ∃ tree, program.tree.Renamed (linker.idFor? world directory) tree ∧
    linked.code = Script.Program.print { program with tree := tree }
  references : References.Collected (Path.identifier linker.root) known files linked.references

variable {linker : Linker} {world : World} {directory : Path}

theorem map_fileFor_of_found {specifiers : List String} {files : List Path}
    (found : specifiers.mapM (linker.fileFor? world directory) = some files) :
    specifiers.map (linker.fileFor? world directory) = files.map some := by
  induction specifiers generalizing files with
  | nil =>
      cases found
      rfl
  | cons specifier rest induction =>
      rw [List.mapM_cons] at found
      rcases Option.bind_eq_some_iff.mp found with ⟨file, told, later⟩
      rcases Option.bind_eq_some_iff.mp later with ⟨others, others_found, whole⟩
      cases whole
      rw [List.map_cons, List.map_cons, told, induction others_found]

/-- Either one of the dependencies of a tree is the first that leads nowhere, and
gathering fails at it, or they lead to files, and gathering tells of these.
Which of the two it is does not hang on what is known. -/
theorem gather_specifiers (linker : Linker) (world : World) (directory : Path)
    (tree : Script.Node) :
    (∃ site, tree.sites.find? (fun site => (linker.fileFor? world directory site.2).isNone) =
        some site ∧
      ∀ known, linker.gather world directory known tree.specifiers .none =
        .error (.resolution site.2 directory)) ∨
    ∃ files, tree.sites.map (fun site => linker.fileFor? world directory site.2) =
        files.map some ∧
      ∀ known, linker.gather world directory known tree.specifiers .none =
        .ok (References.collect (Path.identifier linker.root) known .none files) := by
  rw [← tree.map_sites]
  cases found : (tree.sites.map Prod.snd).mapM (linker.fileFor? world directory) with
  | none =>
      rcases References.gather_of_not_found found with ⟨specifier, first, fails⟩
      rw [List.find?_map] at first
      rcases Option.map_eq_some_iff.mp first with ⟨site, firstSite, rfl⟩
      exact .inl ⟨site, firstSite, fun known => fails _ _ _ _⟩
  | some files =>
      refine .inr ⟨files, ?_, fun known => References.gather_eq_ok_iff.mpr ⟨files, found, rfl⟩⟩
      rw [← map_fileFor_of_found found, List.map_map]
      rfl

/-- Where the dependencies of a tree lead to files, naming them by these files
rewrites them and nothing else. -/
theorem renamed_nameFor {tree : Script.Node} (written : tree.IsWritten) {files : List Path}
    (found : tree.sites.map (fun site => linker.fileFor? world directory site.2) =
      files.map some) :
    tree.Renamed (linker.idFor? world directory)
      (tree.rename (linker.nameFor world directory)) := by
  apply written.isPlain.renamed_rename
  intro position specifier depends
  have listed := List.mem_map_of_mem (f := fun site => linker.fileFor? world directory site.2)
    ((written.visits_sites.mem_iff position specifier).mpr depends)
  rw [found] at listed
  rcases List.mem_map.mp listed with ⟨file, -, told⟩
  rw [nameFor, idFor?, ← told]
  rfl

/-- Linking a script either fails at the first of its dependencies that leads
nowhere, or rewrites exactly its dependencies and tells of the modules they
lead to.  What is known decides about neither the code nor the identifiers. -/
theorem link_exact (linker : Linker) (known : String → Bool) (path : Path) (source : String)
    (world : World) :
    (match Script.Program.read? source with
      | none => (linker.link known path source world).1 = .error (.parse path)
      | some program => ∃ sites, program.tree.Visits sites ∧
        match (linker.link known path source world).1 with
        | .error cause => ∃ site,
            sites.find? (fun site => (linker.fileFor? world path.directory site.2).isNone) =
                some site ∧
              cause = .resolution site.2 path.directory
        | .ok linked => ∃ files,
            linker.Rewrites world path.directory known program sites files linked) ∧
      ∀ other, ((linker.link other path source world).1.map fun linked =>
          (linked.code, linked.references.requires)) =
        (linker.link known path source world).1.map fun linked =>
          (linked.code, linked.references.requires) := by
  constructor
  · rw [(linker.link_eq known path source world).2]
    cases read : Script.Program.read? source with
    | none => rfl
    | some program =>
        have written := Script.Program.read?_isWritten read
        refine ⟨program.tree.sites, written.visits_sites, ?_⟩
        dsimp only
        rcases linker.gather_specifiers world path.directory program.tree with
            ⟨site, first, fails⟩ | ⟨files, found, gathers⟩
        · rw [fails]
          exact ⟨site, first, rfl⟩
        · rw [gathers]
          exact ⟨files, found, ⟨_, renamed_nameFor written found, rfl⟩,
            References.collected_collect _ _ files⟩
  · intro other
    rw [(linker.link_eq known path source world).2, (linker.link_eq other path source world).2]
    cases Script.Program.read? source with
    | none => rfl
    | some program =>
        dsimp only
        rcases linker.gather_specifiers world path.directory program.tree with
            ⟨site, -, fails⟩ | ⟨files, -, gathers⟩
        · rw [fails, fails]
        · rw [gathers, gathers]
          simp only [Except.map, (References.collected_collect _ _ files).requires]

end Linker

end ScriptBundle
