import ScriptBundle.Proofs.Reach
import ScriptBundle.Proofs.Visit

/-!
# What a visit adds

A visit only adds modules behind those that were there, and what it adds is
found from the visited paths by dependencies of modules that it added.  If it
ends without a failure then everything the new modules require is there.  If
it fails then the module that failed is not there, though it was found.

Visits that come one after the other and do not fail leave a table in which
every module was found from the path of the owner whose name it bears.
-/

namespace ScriptBundle

namespace ModuleTable

variable {table later : ModuleTable} {path file : Path} {id required : String}

/-- A module was the first to find a file. -/
def Finds (table : ModuleTable) (path file : Path) : Prop :=
  ∃ member ∈ table.modules, member.path = path ∧ file ∈ member.dependencies

/-- A file is found from a path by modules that were the first to find others. -/
def Leads (table : ModuleTable) : Path → Path → Prop :=
  Relation.ReflTransGen table.Finds

theorem Leads.mono (leads : table.Leads path file) (more : table.modules ⊆ later.modules) :
    later.Leads path file := by
  refine Relation.ReflTransGen.mono (fun _ _ finds => ?_) _ _ leads
  rcases finds with ⟨member, inside, found⟩
  exact ⟨member, more inside, found⟩

theorem Reaches.mono (reaches : table.Reaches id required)
    (more : table.modules ⊆ later.modules) : later.Reaches id required := by
  refine Relation.ReflTransGen.mono (fun _ _ requires => ?_) _ _ reaches
  rcases requires with ⟨member, inside, needed⟩
  exact ⟨member, more inside, needed⟩

theorem contains_mono (more : table.modules ⊆ later.modules)
    (contained : table.contains id = true) : later.contains id = true := by
  rcases contains_iff.mp contained with ⟨member, inside, rfl⟩
  exact contains_id (more inside)

end ModuleTable

namespace ModuleBuilder

variable {builder : ModuleBuilder} {owner : String} {pending left right : List Path}
  {state middle after : BuildState} {world final : World} {path : Path} {added : Module}
  {known : String → Bool} {result : Except BuildError Unit}

/-- A module was built from its file as it is in a world. -/
def Built (builder : ModuleBuilder) (world : World) (member : Module) : Prop :=
  ∃ known, builder.Made world known member.owner member.path member

theorem Made.built (made : builder.Made world known owner path added) :
    builder.Built world added := by
  refine ⟨known, ?_⟩
  rw [made.hasOwner, made.hasPath]
  exact made

/-- Identifiers are reached as their files are found. -/
theorem reaches_of_leads {table : ModuleTable} {file : Path}
    (built : ∀ member ∈ table.modules, ∃ world, builder.Built world member)
    (leads : table.Leads path file) : table.Reaches (builder.idOf path) (builder.idOf file) := by
  refine Relation.ReflTransGen.lift builder.idOf (fun _ _ finds => ?_) _ _ leads
  rcases finds with ⟨member, inside, rfl, found⟩
  rcases built member inside with ⟨world, known, made⟩
  exact ⟨member, inside, made.hasId, made.idOf_mem_requires found⟩

theorem Built.hasId {member : Module} (built : builder.Built world member) :
    member.id = builder.idOf member.path := by
  rcases built with ⟨known, made⟩
  exact made.hasId

theorem Built.congr {other : World} {member : Module} (built : builder.Built world member)
    (same : world.SameFiles other) : builder.Built other member := by
  rcases built with ⟨known, made⟩
  exact ⟨known, made.congr same⟩

/-- A state grew by modules that were found from the given paths. -/
structure Grown (builder : ModuleBuilder) (owner : String) (world : World) (pending : List Path)
    (before after : BuildState) : Prop where
  settled : after.Settled
  kept : before.modules.modules <+: after.modules.modules
  added : ∀ member ∈ after.modules.modules, member ∈ before.modules.modules ∨
    member.owner = owner ∧ builder.Built world member ∧
      ∃ path ∈ pending, after.modules.Leads path member.path

namespace Grown

theorem refl (settled : state.Settled) : builder.Grown owner world pending state state :=
  ⟨settled, List.prefix_rfl, fun _ inside => .inl inside⟩

theorem weaken (grown : builder.Grown owner world left state after) (more : left ⊆ right) :
    builder.Grown owner world right state after := by
  refine ⟨grown.settled, grown.kept, fun member inside => ?_⟩
  rcases grown.added member inside with before | ⟨owned, built, path, waits, leads⟩
  · exact .inl before
  · exact .inr ⟨owned, built, path, more waits, leads⟩

theorem trans (first : builder.Grown owner world pending state middle)
    (second : builder.Grown owner world pending middle after) :
    builder.Grown owner world pending state after := by
  refine ⟨second.settled, first.kept.trans second.kept, fun member inside => ?_⟩
  rcases second.added member inside with before | new
  · rcases first.added member before with earlier | ⟨owned, built, path, waits, leads⟩
    · exact .inl earlier
    · exact .inr ⟨owned, built, path, waits, leads.mono second.kept.subset⟩
  · exact .inr new

theorem congr {other : World} (grown : builder.Grown owner world pending state after)
    (same : world.SameFiles other) : builder.Grown owner other pending state after := by
  refine ⟨grown.settled, grown.kept, fun member inside => ?_⟩
  rcases grown.added member inside with before | ⟨owned, built, found⟩
  · exact .inl before
  · exact .inr ⟨owned, built.congr same, found⟩

/-- A state that grows from the dependencies of a module, once the module is
built, grows from the path of the module. -/
theorem below (settled : state.Settled) (made : builder.Made world known owner path added)
    (unknown : state.hasStatus (builder.idOf path) = false)
    (grown : builder.Grown owner world added.dependencies (state.finish added) after) :
    builder.Grown owner world [path] state after := by
  have modules := settled.finish_modules (made.unknown unknown)
  have kept := grown.kept
  rw [modules] at kept
  have addedInside : added ∈ after.modules.modules := kept.subset (by simp)
  refine ⟨grown.settled, (List.prefix_append _ _).trans kept, fun member inside => ?_⟩
  rcases grown.added member inside with before | ⟨owned, built, file, found, leads⟩
  · rw [modules] at before
    rcases List.mem_append.mp before with earlier | last
    · exact .inl earlier
    · rw [List.mem_singleton.mp last]
      refine .inr ⟨made.hasOwner, made.built, path, List.mem_cons_self, ?_⟩
      rw [made.hasPath]
      exact .refl
  · exact .inr ⟨owned, built, path, List.mem_cons_self,
      .head ⟨added, addedInside, made.hasPath, found⟩ leads⟩

end Grown

theorem Visits.grown (visit : builder.Visits owner pending state world after result final)
    (settled : state.Settled) : builder.Grown owner world pending state after := by
  induction visit with
  | nil state world => exact .refl settled
  | known _ _ induction => exact (induction settled).weaken (List.subset_cons_self _ _)
  | failed _ _ => exact .refl settled
  | abandoned unknown made _ induction =>
      have isMade := made_of_make made
      have settledNext := settled.finish (isMade.unknown unknown)
      have below := (induction settledNext).congr (make_sameFiles made)
      exact (Grown.below settled isMade unknown below).weaken (by simp)
  | built unknown made belowVisit _ belowInduction othersInduction =>
      have isMade := made_of_make made
      have same := make_sameFiles made
      have below := (belowInduction (settled.finish (isMade.unknown unknown))).congr same
      have others := (othersInduction below.settled).congr (belowVisit.sameFiles.trans same)
      exact ((Grown.below settled isMade unknown below).weaken (by simp)).trans
        (others.weaken (List.subset_cons_self _ _))

/-- Everything that a module requires is in a table. -/
def Satisfied (table : ModuleTable) (member : Module) : Prop :=
  ∀ id ∈ member.requires, table.contains id = true

theorem Satisfied.mono {table later : ModuleTable} {member : Module}
    (satisfied : Satisfied table member) (more : table.modules ⊆ later.modules) :
    Satisfied later member :=
  fun id needed => ModuleTable.contains_mono more (satisfied id needed)

/-- A visit that succeeds leaves the modules of its paths, and whatever new
modules require. -/
theorem Visits.complete (visit : builder.Visits owner pending state world after result final)
    (settled : state.Settled) (succeeded : result = .ok ()) :
    (∀ path ∈ pending, after.modules.contains (builder.idOf path) = true) ∧
      ∀ member ∈ after.modules.modules,
        member ∈ state.modules.modules ∨ Satisfied after.modules member := by
  induction visit with
  | nil state world => exact ⟨by simp, fun _ inside => .inl inside⟩
  | known known others induction =>
      rcases induction settled succeeded with ⟨visited, satisfied⟩
      refine ⟨?_, satisfied⟩
      intro path waits
      rcases List.mem_cons.mp waits with rfl | later
      · rw [settled.hasStatus_eq] at known
        exact ModuleTable.contains_mono (others.grown settled).kept.subset known
      · exact visited path later
  | failed _ _ => cases succeeded
  | abandoned _ _ _ _ => cases succeeded
  | @built path rest state finished after world reading between final added result unknown made
      below others belowInduction othersInduction =>
      have isMade := made_of_make made
      have settledNext := settled.finish (isMade.unknown unknown)
      have modules := settled.finish_modules (isMade.unknown unknown)
      have belowGrown := below.grown settledNext
      have othersGrown := others.grown belowGrown.settled
      have belowKept := belowGrown.kept
      rw [modules] at belowKept
      rcases belowInduction settledNext rfl with ⟨belowVisited, belowSatisfied⟩
      rcases othersInduction belowGrown.settled succeeded with ⟨othersVisited, othersSatisfied⟩
      have addedInside : added ∈ finished.modules.modules := belowKept.subset (by simp)
      have contained : finished.modules.contains (builder.idOf path) = true := by
        rw [← isMade.hasId]
        exact ModuleTable.contains_id addedInside
      -- what the new module requires was known, or was visited below it
      have addedSatisfied : Satisfied finished.modules added := by
        intro id needed
        rcases isMade.known_or_dependency needed with isKnown | ⟨file, found, rfl⟩
        · rw [knownWhile, Bool.or_eq_true, decide_eq_true_eq] at isKnown
          rcases isKnown with rfl | before
          · exact contained
          · rw [settled.hasStatus_eq] at before
            refine ModuleTable.contains_mono (fun member inside => ?_) before
            exact belowKept.subset (List.mem_append_left _ inside)
        · exact belowVisited file found
      constructor
      · intro file waits
        rcases List.mem_cons.mp waits with rfl | later
        · exact ModuleTable.contains_mono othersGrown.kept.subset contained
        · exact othersVisited file later
      · intro member inside
        rcases othersSatisfied member inside with before | satisfied
        · rcases belowSatisfied member before with earlier | satisfied
          · rw [modules] at earlier
            rcases List.mem_append.mp earlier with first | last
            · exact .inl first
            · rw [List.mem_singleton.mp last]
              exact .inr (addedSatisfied.mono othersGrown.kept.subset)
          · exact .inr (satisfied.mono othersGrown.kept.subset)
        · exact .inr satisfied

/-- A visit that fails has found a file whose module is missing. -/
theorem Visits.missing (visit : builder.Visits owner pending state world after result final)
    (settled : state.Settled) {cause : BuildError} (failed : result = .error cause) :
    ∃ path ∈ pending, ∃ file, after.modules.Leads path file ∧
      after.modules.contains (builder.idOf file) = false := by
  induction visit with
  | nil state world => cases failed
  | known _ _ induction =>
      rcases induction settled failed with ⟨path, waits, found⟩
      exact ⟨path, List.mem_cons_of_mem _ waits, found⟩
  | @failed path rest state world final cause unknown refused =>
      rw [settled.hasStatus_eq] at unknown
      exact ⟨path, List.mem_cons_self, path, .refl, unknown⟩
  | @abandoned path rest state after world reading final added cause unknown made below
      induction =>
      have isMade := made_of_make made
      have settledNext := settled.finish (isMade.unknown unknown)
      rcases induction settledNext failed with ⟨file, found, missing, leads, absent⟩
      have kept := (below.grown settledNext).kept
      rw [settled.finish_modules (isMade.unknown unknown)] at kept
      have addedInside : added ∈ after.modules.modules := kept.subset (by simp)
      exact ⟨path, List.mem_cons_self, missing,
        .head ⟨added, addedInside, isMade.hasPath, found⟩ leads, absent⟩
  | built unknown made below _ _ othersInduction =>
      have settledNext := settled.finish ((made_of_make made).unknown unknown)
      rcases othersInduction (below.grown settledNext).settled failed with ⟨path, waits, found⟩
      exact ⟨path, List.mem_cons_of_mem _ waits, found⟩

section Joint

variable {Source : Type} {ownerOf : Source → String} {pathOf : Source → Path}
  {done : List Source} {source : Source} {reading : World} {member : Module}

/-- What holds after the paths of some sources were visited for their owners, on
the files of a world, if no visit failed. -/
structure Joint (builder : ModuleBuilder) (world : World) (ownerOf : Source → String)
    (pathOf : Source → Path) (done : List Source) (state : BuildState) : Prop where
  settled : state.Settled
  satisfied : ∀ member ∈ state.modules.modules, Satisfied state.modules member
  built : ∀ member ∈ state.modules.modules, builder.Built world member
  found : ∀ member ∈ state.modules.modules, ∃ source ∈ done,
    member.owner = ownerOf source ∧ state.modules.Leads (pathOf source) member.path
  contained : ∀ source ∈ done, state.modules.contains (builder.idOf (pathOf source)) = true

theorem joint_start (builder : ModuleBuilder) (world : World) (ownerOf : Source → String)
    (pathOf : Source → Path) : builder.Joint world ownerOf pathOf [] .start where
  settled := BuildState.settled_start
  satisfied := fun _ inside => absurd inside List.not_mem_nil
  built := fun _ inside => absurd inside List.not_mem_nil
  found := fun _ inside => absurd inside List.not_mem_nil
  contained := fun _ inside => absurd inside List.not_mem_nil

/-- What holds after some sources holds after one more. -/
theorem Joint.visit (joint : builder.Joint world ownerOf pathOf done state)
    (visit : builder.Visits (ownerOf source) [pathOf source] state reading after (.ok ()) final)
    (same : reading.SameFiles world) :
    builder.Joint world ownerOf pathOf (done ++ [source]) after := by
  have grown := (visit.grown joint.settled).congr same
  rcases visit.complete joint.settled rfl with ⟨visited, satisfied⟩
  refine ⟨grown.settled, ?_, ?_, ?_, ?_⟩
  · intro member inside
    rcases satisfied member inside with earlier | new
    · exact (joint.satisfied member earlier).mono grown.kept.subset
    · exact new
  · intro member inside
    rcases grown.added member inside with earlier | ⟨-, built, -⟩
    · exact joint.built member earlier
    · exact built
  · intro member inside
    rcases grown.added member inside with earlier | ⟨owned, -, path, single, leads⟩
    · rcases joint.found member earlier with ⟨other, listed, owned, leads⟩
      exact ⟨other, List.mem_append_left _ listed, owned, leads.mono grown.kept.subset⟩
    · rw [List.mem_singleton.mp single] at leads
      exact ⟨source, by simp, owned, leads⟩
  · intro other listed
    rcases List.mem_append.mp listed with earlier | last
    · exact ModuleTable.contains_mono grown.kept.subset (joint.contained other earlier)
    · rw [List.mem_singleton.mp last]
      exact visited _ List.mem_cons_self

/-- What bears the name of an owner is reached from the owner's path. -/
theorem Joint.reaches (joint : builder.Joint world ownerOf pathOf done state)
    (distinct : (done.map ownerOf).Nodup) (listed : source ∈ done)
    (inside : member ∈ state.modules.modules) (owned : member.owner = ownerOf source) :
    state.modules.Reaches (builder.idOf (pathOf source)) member.id := by
  rcases joint.found member inside with ⟨other, otherListed, otherOwned, leads⟩
  have same : other = source :=
    List.inj_on_of_nodup_map distinct otherListed listed (otherOwned.symm.trans owned)
  subst same
  rw [(joint.built member inside).hasId]
  exact reaches_of_leads (fun member inside => ⟨world, joint.built member inside⟩) leads

end Joint

end ModuleBuilder

end ScriptBundle
