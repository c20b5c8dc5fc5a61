import ScriptBundle.Proofs.Route
import ScriptBundle.Proofs.Visit
import ScriptBundle.Proofs.Growth

/-!
# Depth-first building

The builder keeps one list of paths that wait, puts the dependencies of a
module before the paths after it, and counts down a bound on the modules that
are left.  It visits the paths all the same: what stands before the paths after
a module is visited before them, and the bound is never reached, since every
module that is built takes a route to a file whose identifier had no status.

A builder is used by calls, one after the other, which may come with different
files and may fail.  Whatever was called before, a call does what the recursive
build of its path does: it ends in the same state with the same module or the
same failure, and does the same on the way.
-/

namespace ScriptBundle.ModuleBuilder

variable {builder : ModuleBuilder} {owner : String} {state : BuildState} {path : Path}
  {world : World}

/-- How many routes to files of a tree have identifiers without a status. -/
def remaining (builder : ModuleBuilder) (world : World) (state : BuildState) : Nat :=
  ((world.tree.routes world.workingDirectory).filter fun route =>
    !state.hasStatus (builder.idOf route)).length

theorem idOf_normalize (builder : ModuleBuilder) (path : Path) :
    builder.idOf path.normalize = builder.idOf path := by
  rw [idOf, idOf, Path.identifier, Path.identifier, Path.normalize_normalize]

/-- Less is left once a module is built. -/
theorem remaining_finish_lt {known : String → Bool} {added : Module}
    (made : builder.Made world known owner path added)
    (unknown : state.hasStatus (builder.idOf path) = false) :
    builder.remaining world (state.finish added) < builder.remaining world state := by
  rcases made.leadsToFile with ⟨location, leads⟩
  have nested : (world.tree.routes world.workingDirectory).filter
      (fun route => !(state.finish added).hasStatus (builder.idOf route)) =
      ((world.tree.routes world.workingDirectory).filter
        fun route => !state.hasStatus (builder.idOf route)).filter
          fun route => builder.idOf route ≠ builder.idOf path := by
    rw [List.filter_filter]
    refine List.filter_congr fun route _ => ?_
    rw [BuildState.hasStatus_finish, made.hasId]
    by_cases same : builder.idOf route = builder.idOf path <;> simp [same]
  rw [remaining, remaining, nested]
  refine List.length_filter_lt_length_iff_exists.mpr ⟨path.normalize, ?_, ?_⟩
  · refine List.mem_filter.mpr ⟨leads.normalize_mem_routes, ?_⟩
    rw [idOf_normalize, unknown]
    rfl
  · simp [idOf_normalize]

/-- How many are left is told by the files. -/
theorem remaining_congr {left right : World} (same : left.SameFiles right) :
    builder.remaining left state = builder.remaining right state := by
  rw [remaining, remaining, same.tree, same.workingDirectory]

theorem remaining_lt_moduleLimit (builder : ModuleBuilder) (world : World) (state : BuildState) :
    builder.remaining world state < moduleLimit world.tree := by
  have fewer := List.length_filter_le (fun route => !state.hasStatus (builder.idOf route))
    (world.tree.routes world.workingDirectory)
  rw [FileTree.length_routes] at fewer
  rw [remaining, moduleLimit]
  omega

theorem buildPending_nil (builder : ModuleBuilder) (owner : String) (fuel : Nat)
    (state : BuildState) (world : World) :
    builder.buildPending owner (fuel + 1) [] state world = ((state, .ok ()), world) :=
  rfl

/-- A path whose identifier has a status is skipped. -/
theorem buildPending_known (fuel : Nat) (rest : List Path)
    (known : state.hasStatus (builder.idOf path) = true) :
    builder.buildPending owner (fuel + 1) (path :: rest) state =
      builder.buildPending owner (fuel + 1) rest state := by
  have dropped : builder.dropKnown state (path :: rest) = builder.dropKnown state rest := by
    simp [dropKnown, known]
  rw [buildPending, buildPending, dropped]

theorem hasStatus_setStatus_building (builder : ModuleBuilder) (state : BuildState)
    (path : Path) :
    (state.setStatus (builder.idOf path) .building).hasStatus = builder.knownWhile state path := by
  funext id
  exact BuildState.hasStatus_setStatus state (builder.idOf path) id .building

/-- The dependencies of a new module are put before the paths that wait. -/
theorem buildPending_unknown (fuel : Nat) (rest : List Path) (world : World)
    (unknown : state.hasStatus (builder.idOf path) = false) :
    builder.buildPending owner (fuel + 1) (path :: rest) state world =
      match builder.make (builder.knownWhile state path) owner path world with
      | (.ok added, reading) =>
        builder.buildPending owner fuel (added.dependencies ++ rest) (state.finish added) reading
      | (.error cause, final) => ((state, .error cause), final) := by
  have kept : builder.dropKnown state (path :: rest) = path :: rest := by
    simp [dropKnown, unknown]
  rw [buildPending, kept]
  dsimp only
  rw [hasStatus_setStatus_building]
  have opened :
      ∀ next : Except BuildError Module → StateM World (BuildState × Except BuildError Unit),
        ((builder.make (builder.knownWhile state path) owner path).run >>= next) world =
          next (builder.make (builder.knownWhile state path) owner path world).1
            (builder.make (builder.knownWhile state path) owner path world).2 := by
    intro next
    rfl
  rw [opened]
  rcases ran : builder.make (builder.knownWhile state path) owner path world with
    ⟨cause | added, reading⟩
  · dsimp only
    rw [BuildState.forget_setStatus unknown]
    rfl
  · dsimp only
    rw [BuildState.finish_setStatus unknown _ (made_of_make ran).hasId]

/-- The builder visits the paths that wait. -/
theorem visits_buildPending (owner : String) (fuel : Nat) (pending : List Path)
    (state : BuildState) (world : World) (enough : builder.remaining world state < fuel) :
    builder.Visits owner pending state world
      (builder.buildPending owner fuel pending state world).1.1
      (builder.buildPending owner fuel pending state world).1.2
      (builder.buildPending owner fuel pending state world).2 := by
  induction fuel generalizing pending state world with
  | zero => exact absurd enough (Nat.not_lt_zero _)
  | succ fuel rounds =>
      induction pending with
      | nil =>
          rw [buildPending_nil]
          exact .nil state world
      | cons path rest induction =>
          cases status : state.hasStatus (builder.idOf path) with
          | true =>
              rw [buildPending_known fuel rest status]
              exact .known status induction
          | false =>
              rw [buildPending_unknown fuel rest world status]
              rcases ran : builder.make (builder.knownWhile state path) owner path world with
                ⟨cause | added, reading⟩
              · exact .failed status ran
              · dsimp only
                have same := make_sameFiles ran
                have fewer := remaining_finish_lt (made_of_make ran) status
                rw [← remaining_congr same] at fewer
                have less : builder.remaining reading (state.finish added) < fuel := by
                  rw [remaining_congr same] at fewer ⊢
                  omega
                have visited :=
                  rounds (added.dependencies ++ rest) (state.finish added) reading less
                rcases visited.split with
                  ⟨cause, failed, below⟩ | ⟨finished, between, below, others⟩
                · rw [failed]
                  exact .abandoned status ran below
                · exact .built status ran below others

theorem build_eq_buildPending (builder : ModuleBuilder) (state : BuildState) (owner : String)
    (path : Path) (world : World) :
    builder.build state owner path world =
      match builder.buildPending owner (moduleLimit world.tree) [path] state world with
      | ((after, result), final) =>
        ((after, result.map fun _ => after.modules.get? (builder.idOf path)), final) :=
  rfl

theorem visits_build (builder : ModuleBuilder) (state : BuildState) (owner : String) (path : Path)
    (world : World) :
    ∃ after result final,
      builder.Visits owner [path] state world after result final ∧
        builder.build state owner path world =
          ((after, result.map fun _ => after.modules.get? (builder.idOf path)), final) :=
  ⟨_, _, _, visits_buildPending owner _ [path] state world
    (remaining_lt_moduleLimit builder world state), rfl⟩

structure Call where
  owner : String
  path : Path
  world : World

/-- The state that a call leaves behind. -/
def perform (builder : ModuleBuilder) (state : BuildState) (call : Call) : BuildState :=
  (builder.build state call.owner call.path call.world).1.1

/-- The state after some calls. -/
def after (builder : ModuleBuilder) (calls : List Call) : BuildState :=
  calls.foldl builder.perform .start

theorem after_append_singleton (builder : ModuleBuilder) (calls : List Call) (call : Call) :
    builder.after (calls ++ [call]) = builder.perform (builder.after calls) call := by
  rw [after, List.foldl_append]
  rfl

/-- A settled state whose modules were all built by a builder. -/
structure Sound (builder : ModuleBuilder) (state : BuildState) : Prop where
  settled : state.Settled
  built : ∀ member ∈ state.modules.modules, ∃ world, builder.Built world member

/-- No module was recorded yet. -/
theorem sound_start (builder : ModuleBuilder) : builder.Sound .start :=
  ⟨BuildState.settled_start, fun _ inside => absurd inside List.not_mem_nil⟩

/-- A state stays sound while modules are recorded. -/
theorem Sound.grown {builder : ModuleBuilder} {owner : String} {world : World}
    {pending : List Path} {state later : BuildState} (sound : builder.Sound state)
    (grown : builder.Grown owner world pending state later) : builder.Sound later := by
  refine ⟨grown.settled, fun member inside => ?_⟩
  rcases grown.added member inside with before | ⟨-, built, -⟩
  · exact sound.built member before
  · exact ⟨world, built⟩

theorem Sound.perform {builder : ModuleBuilder} {state : BuildState} (sound : builder.Sound state)
    (call : Call) : builder.Sound (builder.perform state call) := by
  rcases builder.visits_build state call.owner call.path call.world with
      ⟨later, result, final, visit, called⟩
  rw [ModuleBuilder.perform, called]
  exact sound.grown (visit.grown sound.settled)

theorem sound_after (builder : ModuleBuilder) (calls : List Call) :
    builder.Sound (builder.after calls) := by
  have calling : ∀ state, builder.Sound state →
      builder.Sound (calls.foldl builder.perform state) := by
    induction calls with
    | nil =>
        intro state sound
        exact sound
    | cons call rest induction =>
        intro state sound
        exact induction _ (sound.perform call)
  exact calling .start (sound_start builder)

/-- The recursive build of a path gives the module of the path, or the failure
that ended the visit of the path. -/
inductive DepthFirst (builder : ModuleBuilder) (owner : String) (path : Path) (state : BuildState)
    (world : World) : BuildState → Except BuildError Module → World → Prop where
  | returned {later : BuildState} {final : World} {first : Module}
      (visit : builder.Visits owner [path] state world later (.ok ()) final)
      (found : later.modules.get? (builder.idOf path) = some first) :
      DepthFirst builder owner path state world later (.ok first) final
  | failed {later : BuildState} {final : World} {cause : BuildError}
      (visit : builder.Visits owner [path] state world later (.error cause) final) :
      DepthFirst builder owner path state world later (.error cause) final

/-- The recursive build has one outcome. -/
theorem DepthFirst.deterministic {builder : ModuleBuilder} {owner : String} {path : Path}
    {state later otherLater : BuildState} {world final otherFinal : World}
    {result otherResult : Except BuildError Module}
    (first : builder.DepthFirst owner path state world later result final)
    (second : builder.DepthFirst owner path state world otherLater otherResult otherFinal) :
    later = otherLater ∧ result = otherResult ∧ final = otherFinal := by
  cases first with
  | returned visit found =>
      cases second with
      | returned again foundAgain =>
          rcases visit.deterministic again with ⟨rfl, -, rfl⟩
          cases found.symm.trans foundAgain
          exact ⟨rfl, rfl, rfl⟩
      | failed again => cases (visit.deterministic again).2.1
  | failed visit =>
      cases second with
      | returned again _ => cases (visit.deterministic again).2.1
      | failed again =>
          rcases visit.deterministic again with ⟨rfl, same, rfl⟩
          cases same
          exact ⟨rfl, rfl, rfl⟩

/-- A visit that succeeds leaves a module for its path. -/
theorem exists_entry {builder : ModuleBuilder} {owner : String} {path : Path}
    {state later : BuildState} {world final : World} (settled : state.Settled)
    (visit : builder.Visits owner [path] state world later (.ok ()) final) :
    ∃ first, later.modules.get? (builder.idOf path) = some first :=
  Option.isSome_iff_exists.mp ((visit.complete settled rfl).1 path List.mem_cons_self)

/-- Whatever calls came before, a call has one outcome, with a module if it has
no failure, and this is the only outcome of the recursive build of its path. -/
theorem build_eq_depthFirst (builder : ModuleBuilder) (calls : List Call) (owner : String)
    (path : Path) (world : World) :
    ∃ later result final,
      builder.build (builder.after calls) owner path world = ((later, result.map some), final) ∧
        ∀ recursiveState recursiveResult recursiveWorld,
          builder.DepthFirst owner path (builder.after calls) world
              recursiveState recursiveResult recursiveWorld ↔
            recursiveState = later ∧ recursiveResult = result ∧ recursiveWorld = final := by
  have settled := (builder.sound_after calls).settled
  rcases builder.visits_build (builder.after calls) owner path world with
      ⟨later, visited, final, visit, called⟩
  have outcome : ∃ result, (visited.map fun _ => later.modules.get? (builder.idOf path)) =
      result.map some ∧ builder.DepthFirst owner path (builder.after calls) world later result
        final := by
    cases visited with
    | error cause => exact ⟨.error cause, rfl, .failed visit⟩
    | ok done =>
        rcases exists_entry settled visit with ⟨first, found⟩
        exact ⟨.ok first, congrArg Except.ok found, .returned visit found⟩
  rcases outcome with ⟨result, returned, recursive⟩
  refine ⟨later, result, final, called.trans (by rw [returned]), ?_⟩
  intro recursiveState recursiveResult recursiveWorld
  constructor
  · intro other
    exact other.deterministic recursive
  · rintro ⟨rfl, rfl, rfl⟩
    exact recursive

end ScriptBundle.ModuleBuilder
