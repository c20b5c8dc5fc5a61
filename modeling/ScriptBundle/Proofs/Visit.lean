import ScriptBundle.Proofs.Reference
import ScriptBundle.Proofs.Status

/-!
# Visiting modules

Here the order of building is told by recursion, without a list of paths that
wait.  To visit paths is to take one after the other: a path whose identifier
has a status is skipped; otherwise its module is built and recorded, then its
dependencies are visited, and only then come the paths after it.  The first
failure ends every visit that is under way, and leaves what was recorded.
-/

namespace ScriptBundle.ModuleBuilder

/-- The identifiers that are known while the module in a file is being built:
its own, and those with a status. -/
def knownWhile (builder : ModuleBuilder) (state : BuildState) (path : Path) : String → Bool :=
  fun id => decide (id = builder.idOf path) || state.hasStatus id

/-- Visiting paths, in the given state and world, ends in another state and
world, with or without a failure. -/
inductive Visits (builder : ModuleBuilder) (owner : String) :
    List Path → BuildState → World → BuildState → Except BuildError Unit → World → Prop where
  | nil (state : BuildState) (world : World) :
      Visits builder owner [] state world state (.ok ()) world
  /-- A path with a status is skipped. -/
  | known {path : Path} {rest : List Path} {state after : BuildState} {world final : World}
      {result : Except BuildError Unit}
      (known : state.hasStatus (builder.idOf path) = true)
      (others : Visits builder owner rest state world after result final) :
      Visits builder owner (path :: rest) state world after result final
  /-- A module that cannot be built leaves no trace in the state. -/
  | failed {path : Path} {rest : List Path} {state : BuildState} {world final : World}
      {cause : BuildError}
      (unknown : state.hasStatus (builder.idOf path) = false)
      (refused : builder.make (builder.knownWhile state path) owner path world =
        (.error cause, final)) :
      Visits builder owner (path :: rest) state world state (.error cause) final
  /-- A failure below a module ends the visit of its siblings too. -/
  | abandoned {path : Path} {rest : List Path} {state after : BuildState}
      {world reading final : World} {added : Module} {cause : BuildError}
      (unknown : state.hasStatus (builder.idOf path) = false)
      (made : builder.make (builder.knownWhile state path) owner path world =
        (.ok added, reading))
      (below : Visits builder owner added.dependencies (state.finish added) reading
        after (.error cause) final) :
      Visits builder owner (path :: rest) state world after (.error cause) final
  /-- What is below a module is visited before its siblings. -/
  | built {path : Path} {rest : List Path} {state finished after : BuildState}
      {world reading between final : World} {added : Module} {result : Except BuildError Unit}
      (unknown : state.hasStatus (builder.idOf path) = false)
      (made : builder.make (builder.knownWhile state path) owner path world =
        (.ok added, reading))
      (below : Visits builder owner added.dependencies (state.finish added) reading
        finished (.ok ()) between)
      (others : Visits builder owner rest finished between after result final) :
      Visits builder owner (path :: rest) state world after result final

section Make

variable {builder : ModuleBuilder} {owner : String} {state : BuildState} {path : Path}
  {world final : World} {added : Module} {cause : BuildError}

theorem make_sameFiles {known : String → Bool} {result : Except BuildError Module}
    (ran : builder.make known owner path world = (result, final)) : final.SameFiles world := by
  have kept := (builder.make_apply known owner path world).1
  rwa [ran] at kept

/-- What a builder makes is a module made from the file. -/
theorem made_of_make {known : String → Bool}
    (made : builder.make known owner path world = (.ok added, final)) :
    builder.Made world known owner path added := by
  have told := (builder.make_apply known owner path world).2
  rwa [made] at told

theorem references_of_make {known : String → Bool}
    (refused : builder.make known owner path world = (.error cause, final)) :
    builder.references world known path = .error cause := by
  have told := (builder.make_apply known owner path world).2
  rwa [refused] at told

theorem Made.unknown {known : String → Bool} (made : builder.Made world known owner path added)
    (unknown : state.hasStatus (builder.idOf path) = false) :
    state.hasStatus added.id = false := by
  rw [made.hasId]
  exact unknown

end Make

namespace Visits

variable {builder : ModuleBuilder} {owner : String} {pending left right : List Path}
  {state after : BuildState} {world final : World} {result : Except BuildError Unit}

/-- A visit has one outcome. -/
theorem deterministic {otherAfter : BuildState} {otherResult : Except BuildError Unit}
    {otherFinal : World}
    (first : builder.Visits owner pending state world after result final)
    (second : builder.Visits owner pending state world otherAfter otherResult otherFinal) :
    after = otherAfter ∧ result = otherResult ∧ final = otherFinal := by
  induction first generalizing otherAfter otherResult otherFinal with
  | nil state world =>
      cases second
      exact ⟨rfl, rfl, rfl⟩
  | known known _ induction =>
      cases second with
      | known _ others => exact induction others
      | failed unknown => simp [known] at unknown
      | abandoned unknown => simp [known] at unknown
      | built unknown => simp [known] at unknown
  | failed unknown refused =>
      cases second with
      | known known => simp [known] at unknown
      | failed _ again =>
          cases refused.symm.trans again
          exact ⟨rfl, rfl, rfl⟩
      | abandoned _ made => cases refused.symm.trans made
      | built _ made => cases refused.symm.trans made
  | abandoned unknown made _ induction =>
      cases second with
      | known known => simp [known] at unknown
      | failed _ refused => cases made.symm.trans refused
      | abandoned _ again below =>
          cases made.symm.trans again
          exact induction below
      | built _ again below =>
          cases made.symm.trans again
          cases (induction below).2.1
  | built unknown made _ _ belowInduction othersInduction =>
      cases second with
      | known known => simp [known] at unknown
      | failed _ refused => cases made.symm.trans refused
      | abandoned _ again below =>
          cases made.symm.trans again
          cases (belowInduction below).2.1
      | built _ again below others =>
          cases made.symm.trans again
          rcases belowInduction below with ⟨rfl, -, rfl⟩
          exact othersInduction others

/-- A visit of some paths and then others fails among the first, or visits
all of them before it comes to the others. -/
theorem split
    (visit : builder.Visits owner (left ++ right) state world after result final) :
    (∃ cause, result = .error cause ∧
        builder.Visits owner left state world after (.error cause) final) ∨
      ∃ finished between,
        builder.Visits owner left state world finished (.ok ()) between ∧
          builder.Visits owner right finished between after result final := by
  generalize whole : left ++ right = pending at visit
  induction visit generalizing left with
  | nil state world =>
      rcases List.append_eq_nil_iff.mp whole with ⟨rfl, rfl⟩
      exact .inr ⟨state, world, .nil state world, .nil state world⟩
  | @known path rest state after world final result known others induction =>
      rcases List.append_eq_cons_iff.mp whole with ⟨rfl, rfl⟩ | ⟨more, rfl, rfl⟩
      · exact .inr ⟨state, world, .nil state world, .known known others⟩
      · rcases induction rfl with ⟨cause, failed, inLeft⟩ | ⟨finished, between, inLeft, inRight⟩
        · exact .inl ⟨cause, failed, .known known inLeft⟩
        · exact .inr ⟨finished, between, .known known inLeft, inRight⟩
  | @failed path rest state world final cause unknown refused =>
      rcases List.append_eq_cons_iff.mp whole with ⟨rfl, rfl⟩ | ⟨more, rfl, rfl⟩
      · exact .inr ⟨state, world, .nil state world, .failed unknown refused⟩
      · exact .inl ⟨cause, rfl, .failed unknown refused⟩
  | @abandoned path rest state after world reading final added cause unknown made below _ =>
      rcases List.append_eq_cons_iff.mp whole with ⟨rfl, rfl⟩ | ⟨more, rfl, rfl⟩
      · exact .inr ⟨state, world, .nil state world, .abandoned unknown made below⟩
      · exact .inl ⟨cause, rfl, .abandoned unknown made below⟩
  | @built path rest state finished after world reading between final added result unknown made
      below others _ induction =>
      rcases List.append_eq_cons_iff.mp whole with ⟨rfl, rfl⟩ | ⟨more, rfl, rfl⟩
      · exact .inr ⟨state, world, .nil state world, .built unknown made below others⟩
      · rcases induction rfl with ⟨cause, failed, inLeft⟩ | ⟨reached, later, inLeft, inRight⟩
        · subst failed
          exact .inl ⟨cause, rfl, .built unknown made below inLeft⟩
        · exact .inr ⟨reached, later, .built unknown made below inLeft, inRight⟩

/-- A visit changes no file. -/
theorem sameFiles (visit : builder.Visits owner pending state world after result final) :
    final.SameFiles world := by
  induction visit with
  | nil state world => exact .refl world
  | known _ _ induction => exact induction
  | failed _ refused => exact make_sameFiles refused
  | abandoned _ made _ induction => exact induction.trans (make_sameFiles made)
  | built _ made _ _ belowInduction othersInduction =>
      exact othersInduction.trans (belowInduction.trans (make_sameFiles made))

/-- A visit that fails ends with a module that could not be built in the state
that the visit leaves. -/
theorem refused (visit : builder.Visits owner pending state world after result final)
    {cause : BuildError} (failed : result = .error cause) :
    ∃ path reading, reading.SameFiles world ∧ after.hasStatus (builder.idOf path) = false ∧
      builder.make (builder.knownWhile after path) owner path reading = (.error cause, final) := by
  induction visit with
  | nil state world => cases failed
  | known _ _ induction => exact induction failed
  | @failed path rest state world final cause unknown refused =>
      cases failed
      exact ⟨path, world, .refl world, unknown, refused⟩
  | abandoned _ made _ induction =>
      rcases induction failed with ⟨path, reading, same, found⟩
      exact ⟨path, reading, same.trans (make_sameFiles made), found⟩
  | built _ made below _ _ othersInduction =>
      rcases othersInduction failed with ⟨path, reading, same, found⟩
      exact ⟨path, reading, same.trans (below.sameFiles.trans (make_sameFiles made)), found⟩

end Visits

end ScriptBundle.ModuleBuilder
