import ScriptBundle.Proofs.Growth
import ScriptBundle.Proofs.Rewriting

/-!
# What is embedded of a module

What was built before decides which files a module is the first to find, and
for which entry it is built.  What a bundle embeds of it, and whether it can be
made at all, is told by its file.

So a visit that fails has found, by following what the files require, a file
that nothing can be made of.
-/

namespace ScriptBundle

/-- A module without what hangs on the modules that were built before it. -/
structure Contents where
  id : String
  path : Path
  source : String
  requires : List String
deriving DecidableEq, Repr

def Module.contents (member : Module) : Contents :=
  ⟨member.id, member.path, member.source, member.requires⟩

namespace ModuleBuilder

variable {builder : ModuleBuilder} {owner : String} {pending : List Path}
  {state after : BuildState} {world final : World} {result : Except BuildError Unit}
  {known : String → Bool} {path : Path} {added : Module} {cause : BuildError}

/-- What is embedded of the module in a file. -/
def contentsOf (builder : ModuleBuilder) (world : World) (path : Path) :
    Except BuildError Contents :=
  (builder.moduleOf world (fun _ => false) "" path).map Module.contents

/-- Neither what is known nor the entry decides about what is embedded. -/
theorem moduleOf_contents (builder : ModuleBuilder) (world : World) (known : String → Bool)
    (owner : String) (path : Path) :
    (builder.moduleOf world known owner path).map Module.contents =
      builder.contentsOf world path := by
  rw [contentsOf, moduleOf, moduleOf]
  cases builder.textOf world path with
  | error cause => exact Eq.refl (Except.error cause)
  | ok text =>
      change (builder.moduleFrom world known owner path text).map Module.contents =
        (builder.moduleFrom world (fun _ => false) "" path text).map Module.contents
      rw [moduleFrom, moduleFrom]
      cases Script.Program.read? text with
      | none => rfl
      | some program =>
          dsimp only
          rcases builder.linker.gather_specifiers world path.directory program.tree with
            ⟨site, -, fails⟩ | ⟨files, -, gathers⟩
          · rw [fails, fails]
            rfl
          · rw [gathers, gathers]
            simp only [Except.map, Module.contents,
              (References.collected_collect _ _ files).requires]

theorem textOf_congr (builder : ModuleBuilder) {left right : World}
    (same : left.SameFiles right) : builder.textOf left = builder.textOf right := by
  funext path
  rw [textOf, textOf, same.tree, same.workingDirectory]

theorem moduleFrom_congr (builder : ModuleBuilder) {left right : World}
    (same : left.SameFiles right) : builder.moduleFrom left = builder.moduleFrom right := by
  funext known owner path text
  simp only [moduleFrom, Linker.gather, builder.linker.fileFor?_congr same,
    Linker.nameFor_congr same]

theorem contentsOf_congr (builder : ModuleBuilder) {left right : World}
    (same : left.SameFiles right) : builder.contentsOf left = builder.contentsOf right := by
  funext path
  rw [contentsOf, contentsOf, moduleOf, moduleOf, builder.textOf_congr same,
    builder.moduleFrom_congr same]

theorem requiresFile_congr (builder : ModuleBuilder) {left right : World}
    (same : left.SameFiles right) : builder.RequiresFile left = builder.RequiresFile right := by
  funext path file
  rw [RequiresFile, RequiresFile, requiredFiles?, requiredFiles?, builder.textOf_congr same,
    builder.linker.fileFor?_congr same]

theorem contentsOf_of_make (made : builder.make known owner path world = (.ok added, final)) :
    builder.contentsOf world path = .ok added.contents := by
  have told := (builder.make_eq known owner path world).2
  rw [made] at told
  rw [← builder.moduleOf_contents world known owner path, ← told]
  rfl

theorem contentsOf_of_refused
    (refused : builder.make known owner path world = (.error cause, final)) :
    builder.contentsOf world path = .error cause := by
  have told := (builder.make_eq known owner path world).2
  rw [refused] at told
  rw [← builder.moduleOf_contents world known owner path, ← told]
  rfl

/-- What is added below a module, and the module itself, has the contents of its
file. -/
theorem Visits.contents_below {reading : World} (settled : state.Settled)
    (unknown : state.hasStatus (builder.idOf path) = false)
    (made : builder.make known owner path world = (.ok added, reading))
    (below : ∀ member ∈ after.modules.modules, member ∈ (state.finish added).modules.modules ∨
      builder.contentsOf reading member.path = .ok member.contents) :
    ∀ member ∈ after.modules.modules, member ∈ state.modules.modules ∨
      builder.contentsOf world member.path = .ok member.contents := by
  have isMade := made_of_make made
  intro member inside
  rcases below member inside with before | told
  · rw [settled.finish_modules (isMade.unknown unknown)] at before
    rcases List.mem_append.mp before with earlier | last
    · exact .inl earlier
    · rw [List.mem_singleton.mp last, isMade.hasPath]
      exact .inr (contentsOf_of_make made)
  · rw [builder.contentsOf_congr (make_sameFiles made)] at told
    exact .inr told

/-- What a visit adds has the contents of its file. -/
theorem Visits.contents (visit : builder.Visits owner pending state world after result final)
    (settled : state.Settled) :
    ∀ member ∈ after.modules.modules, member ∈ state.modules.modules ∨
      builder.contentsOf world member.path = .ok member.contents := by
  induction visit with
  | nil state world => exact fun _ inside => .inl inside
  | known _ _ induction => exact induction settled
  | failed _ _ => exact fun _ inside => .inl inside
  | abandoned unknown made _ induction =>
      exact Visits.contents_below settled unknown made
        (induction (settled.finish ((made_of_make made).unknown unknown)))
  | built unknown made below _ belowInduction othersInduction =>
      have settledNext := settled.finish ((made_of_make made).unknown unknown)
      have same := below.sameFiles.trans (make_sameFiles made)
      intro member inside
      rcases othersInduction (below.grown settledNext).settled member inside with earlier | told
      · exact Visits.contents_below settled unknown made (belowInduction settledNext) member earlier
      · rw [builder.contentsOf_congr same] at told
        exact .inr told

/-- A visit that fails has found a file that no module can be made of. -/
theorem Visits.found_refused (visit : builder.Visits owner pending state world after result final)
    (failed : result = .error cause) :
    ∃ start ∈ pending, ∃ path, Relation.ReflTransGen (builder.RequiresFile world) start path ∧
      builder.contentsOf world path = .error cause := by
  induction visit with
  | nil state world => cases failed
  | known _ _ induction =>
      rcases induction failed with ⟨start, waits, found⟩
      exact ⟨start, List.mem_cons_of_mem _ waits, found⟩
  | @failed path rest state world final cause unknown refused =>
      cases failed
      exact ⟨path, List.mem_cons_self, path, .refl, contentsOf_of_refused refused⟩
  | @abandoned path rest state after world reading final added cause unknown made below
      induction =>
      rcases induction failed with ⟨start, waits, file, reached, refused⟩
      rw [builder.requiresFile_congr (make_sameFiles made)] at reached
      rw [builder.contentsOf_congr (make_sameFiles made)] at refused
      have first := (made_of_make made).requiresFile waits
      exact ⟨path, List.mem_cons_self, file, .head first reached, refused⟩
  | built unknown made below _ _ othersInduction =>
      have same := below.sameFiles.trans (make_sameFiles made)
      rcases othersInduction failed with ⟨start, waits, file, reached, refused⟩
      rw [builder.requiresFile_congr same] at reached
      rw [builder.contentsOf_congr same] at refused
      exact ⟨start, List.mem_cons_of_mem _ waits, file, reached, refused⟩

end ModuleBuilder

end ScriptBundle
