import Mathlib.Data.List.Induction
import ScriptBundle.Proofs.DepthFirst

/-!
# What failures leave behind

A call that fails keeps the modules that it built, though some of what they
require was never built.  These identifiers are abandoned: a later call that
meets one of those modules takes it for done and does not look below it.  So
what a successful call may lack is what an earlier failure abandoned, and
nothing else.

A builder keeps statuses and modules apart, and changes them at different
moments.  Between two calls they agree all the same: the identifiers with a
status are those of the modules that are there, and no building is under way.
Whatever a call does, it only puts modules behind those that it found, so that
a call that succeeds finds the module of its entry, and the module that a call
failed on is one without a status.
-/

namespace ScriptBundle

/-- Whatever is reached from an identifier is in the table. -/
def ModuleTable.CompleteFrom (table : ModuleTable) (first : String) : Prop :=
  ∀ id, table.Reaches first id → table.contains id = true

namespace ModuleBuilder

variable {builder : ModuleBuilder} {calls : List Call} {call : Call} {owner : String}
  {path : Path} {state later : BuildState} {world final : World} {cause : BuildError}

/-- What a call returns in a state. -/
def outcome (builder : ModuleBuilder) (state : BuildState) (call : Call) :
    Except BuildError (Option Module) :=
  (builder.build state call.owner call.path call.world).1.2

/-- A call that comes after others fails, and leaves a module that it built
without something that the module requires. -/
structure Abandons (builder : ModuleBuilder) (calls : List Call) (call : Call) (id : String) :
    Prop where
  failed : ∃ cause, builder.outcome (builder.after calls) call = .error cause
  required : ∃ member ∈ (builder.after (calls ++ [call])).modules.modules,
    member ∉ (builder.after calls).modules.modules ∧ id ∈ member.requires
  missing : (builder.after (calls ++ [call])).modules.contains id = false

/-- Some call of a history abandoned an identifier. -/
def Abandoned (builder : ModuleBuilder) (calls : List Call) (id : String) : Prop :=
  ∃ before call rest, calls = before ++ call :: rest ∧ builder.Abandons before call id

theorem Abandoned.append {id : String} (abandoned : builder.Abandoned calls id)
    (more : List Call) : builder.Abandoned (calls ++ more) id := by
  rcases abandoned with ⟨before, call, rest, rfl, abandons⟩
  exact ⟨before, call, rest ++ more, by simp, abandons⟩

/-- What a module requires is there, or was abandoned. -/
theorem contains_or_abandoned (builder : ModuleBuilder) (calls : List Call) :
    ∀ member ∈ (builder.after calls).modules.modules, ∀ id ∈ member.requires,
      (builder.after calls).modules.contains id = true ∨ builder.Abandoned calls id := by
  -- the induction goes from call to call, the latest last
  induction calls using List.reverseRecOn with
  | nil =>
      intro member inside
      cases inside
  | append_singleton calls call induction =>
      have settled := (builder.sound_after calls).settled
      rcases builder.visits_build (builder.after calls) call.owner call.path call.world with
          ⟨later, result, final, visit, called⟩
      have reached : builder.after (calls ++ [call]) = later := by
        rw [after_append_singleton, perform, called]
      have kept := (visit.grown settled).kept
      intro member inside id needed
      by_cases earlier : member ∈ (builder.after calls).modules.modules
      · rcases induction member earlier id needed with contained | abandoned
        · rw [reached]
          exact .inl (ModuleTable.contains_mono kept.subset contained)
        · exact .inr (abandoned.append [call])
      cases contained : (builder.after (calls ++ [call])).modules.contains id with
      | true => exact .inl rfl
      | false =>
          refine .inr ⟨calls, call, [], rfl, ?_, ⟨member, inside, earlier, needed⟩, contained⟩
          cases result with
          | error cause => exact ⟨cause, by rw [outcome, called]; rfl⟩
          | ok done =>
              rw [reached] at inside contained
              rcases (visit.complete settled rfl).2 member inside with before | satisfied
              · exact absurd before earlier
              · rw [satisfied id needed] at contained
                cases contained

/-- A call that succeeds is complete if what it reaches of the abandoned
identifiers has been built. -/
theorem completeFrom_of_abandoned {first : Module}
    (succeeded : builder.build (builder.after calls) owner path world =
      ((later, .ok (some first)), final))
    (restored : ∀ id, builder.Abandoned calls id → later.modules.Reaches first.id id →
      later.modules.contains id = true) :
    later.modules.CompleteFrom first.id := by
  have settled := (builder.sound_after calls).settled
  rcases builder.visits_build (builder.after calls) owner path world with
      ⟨reached, result, last, visit, called⟩
  rw [called] at succeeded
  cases result with
  | error cause => cases succeeded
  | ok done =>
      have kept := (visit.grown settled).kept
      have satisfied := (visit.complete settled rfl).2
      rcases Prod.mk.inj (Prod.mk.inj succeeded).1 with ⟨same, returned⟩
      subst same
      have found : reached.modules.get? (builder.idOf path) = some first := Except.ok.inj returned
      intro id reaches
      cases reaches with
      | refl => exact ModuleTable.contains_id (ModuleTable.get?_eq_some found).1
      | @tail middle _ before requires =>
          rcases requires with ⟨member, inside, sameId, needed⟩
          have reachesId : reached.modules.Reaches first.id id :=
            before.tail ⟨member, inside, sameId, needed⟩
          rcases satisfied member inside with earlier | complete
          · rcases builder.contains_or_abandoned calls member earlier id needed with
              contained | abandoned
            · exact ModuleTable.contains_mono kept.subset contained
            · exact restored id abandoned reachesId
          · exact complete id needed

theorem build_known (known : state.hasStatus (builder.idOf path) = true) :
    builder.build state owner path world =
      ((state, .ok (state.modules.get? (builder.idOf path))), world) := by
  rcases builder.visits_build state owner path world with ⟨later, result, final, visit, called⟩
  cases visit with
  | known _ others =>
      cases others
      exact called
  | failed unknown => simp [known] at unknown
  | abandoned unknown => simp [known] at unknown
  | built unknown => simp [known] at unknown

/-- A visit of one path that fails has built the module of the path, or could
not build it and left the state alone. -/
theorem Visits.fails {pending : List Path} {result : Except BuildError Unit}
    (visit : builder.Visits owner pending state world later result final)
    (single : pending = [path]) (failed : result = .error cause) (settled : state.Settled) :
    later.modules.contains (builder.idOf path) = true ∨
      later = state ∧ state.hasStatus (builder.idOf path) = false ∧
        builder.references world (builder.knownWhile state path) path = .error cause := by
  cases visit with
  | nil => cases single
  | known known others =>
      cases single
      cases others
      cases failed
  | failed unknown refused =>
      cases single
      cases failed
      exact .inr ⟨rfl, unknown, references_of_make refused⟩
  | @abandoned _ _ _ _ _ reading _ added _ unknown made below =>
      cases single
      have isMade := made_of_make made
      have kept := (below.grown (settled.finish (isMade.unknown unknown))).kept
      rw [settled.finish_modules (isMade.unknown unknown)] at kept
      have addedInside : added ∈ later.modules.modules := kept.subset (by simp)
      rw [← isMade.hasId]
      exact .inl (ModuleTable.contains_id addedInside)
  | built _ _ _ others =>
      cases single
      cases others
      cases failed

theorem build_refused (unknown : state.hasStatus (builder.idOf path) = false)
    (refused : builder.references world (builder.knownWhile state path) path = .error cause) :
    (builder.build state owner path world).1 = (state, .error cause) := by
  rcases builder.visits_build state owner path world with ⟨later, result, final, visit, called⟩
  rw [called]
  cases visit with
  | known known => simp [known] at unknown
  | failed _ again =>
      cases refused.symm.trans (references_of_make again)
      rfl
  | abandoned _ made => cases refused.symm.trans (made_of_make made).hasReferences
  | built _ made => cases refused.symm.trans (made_of_make made).hasReferences

/-- A call that failed, repeated on the same files, fails for the same cause if
the module of its path could not be built.  Otherwise it succeeds, without the
module that failed. -/
theorem repeated_call {again : World}
    (failed : builder.outcome (builder.after calls) call = .error cause)
    (same : again.SameFiles call.world) :
    let left := builder.after (calls ++ [call])
    (left.modules.contains (builder.idOf call.path) = false ∧
        builder.outcome left { call with world := again } = .error cause) ∨
      (left.modules.contains (builder.idOf call.path) = true ∧
        (∃ first, builder.outcome left { call with world := again } = .ok (some first)) ∧
        ¬ left.modules.CompleteFrom (builder.idOf call.path)) := by
  have sound := builder.sound_after calls
  have soundLeft := builder.sound_after (calls ++ [call])
  rcases builder.visits_build (builder.after calls) call.owner call.path call.world with
      ⟨later, result, final, visit, called⟩
  have reached : builder.after (calls ++ [call]) = later := by
    rw [after_append_singleton, perform, called]
  rw [outcome, called] at failed
  have stopped : result = .error cause := by
    cases result with
    | error other => exact congrArg Except.error (Except.error.inj failed)
    | ok done => cases failed
  dsimp only
  rw [reached] at soundLeft ⊢
  rcases visit.fails rfl stopped sound.settled with contained | ⟨rfl, unknown, refused⟩
  · refine .inr ⟨contained, ?_, fun complete => ?_⟩
    · rcases Option.isSome_iff_exists.mp contained with ⟨first, found⟩
      have known := contained
      rw [← soundLeft.settled.hasStatus_eq] at known
      exact ⟨first, by rw [outcome, build_known known, found]⟩
    · rcases visit.missing sound.settled stopped with ⟨path, single, file, leads, missing⟩
      rw [List.mem_singleton.mp single] at leads
      rw [complete _ (reaches_of_leads soundLeft.built leads)] at missing
      cases missing
  · refine .inl ⟨?_, ?_⟩
    · rw [← sound.settled.hasStatus_eq]
      exact unknown
    · rw [← builder.references_congr same] at refused
      rw [outcome, build_refused unknown refused]

/-- When calls that succeed are complete, and what becomes of calls that
failed.  After any history of calls, the entry that a call returns has
everything below it in the table exactly if the identifiers that failed calls
abandoned and that the entry reaches have been built; and a failed call that is
repeated on the same files keeps failing exactly if it failed on the module of
its own path. -/
theorem complete_iff_restored (builder : ModuleBuilder) (calls : List Call) (call : Call) :
    (∀ later first final,
      builder.build (builder.after calls) call.owner call.path call.world =
          ((later, .ok (some first)), final) →
        (later.modules.CompleteFrom first.id ↔
          ∀ id, builder.Abandoned calls id → later.modules.Reaches first.id id →
            later.modules.contains id = true)) ∧
    ∀ cause again, builder.outcome (builder.after calls) call = .error cause →
      again.SameFiles call.world →
        let left := builder.after (calls ++ [call])
        (left.modules.contains (builder.idOf call.path) = false ∧
            builder.outcome left { call with world := again } = .error cause) ∨
          (left.modules.contains (builder.idOf call.path) = true ∧
            (∃ first, builder.outcome left { call with world := again } = .ok (some first)) ∧
            ¬ left.modules.CompleteFrom (builder.idOf call.path)) := by
  constructor
  · intro later first final succeeded
    constructor
    · intro complete id _
      exact complete id
    · exact completeFrom_of_abandoned succeeded
  · intro cause again failed same
    exact repeated_call failed same

/-- A module that requires a text that is no script. -/
def brokenWorld : World where
  tree := ⟨[(["work"], .directory),
    (["work", "index.js"], .file "require('./b');".toUTF8),
    (["work", "b.js"], .file "const = ;".toUTF8)]⟩
  workingDirectory := ["work"]
  journal := []

def brokenCall : Call :=
  ⟨"main", ⟨"/work/index.js"⟩, brokenWorld⟩

def plainBuilder : ModuleBuilder :=
  ⟨⟨[]⟩, ⟨⟨"/work"⟩, [".js"]⟩⟩

/-- The call fails; repeated on the same files it succeeds, and what the module
it returns requires is missing. -/
theorem brokenCall_repeated :
    plainBuilder.outcome (plainBuilder.after []) brokenCall = .error (.parse ⟨"/work/b.js"⟩) ∧
      ∃ later first final,
        plainBuilder.build (plainBuilder.after [brokenCall]) brokenCall.owner brokenCall.path
            brokenCall.world = ((later, .ok (some first)), final) ∧
          later.modules.Reaches first.id "./b.js" ∧
          later.modules.contains "./b.js" = false := by
  refine ⟨by decide +kernel, ?_⟩
  have evaluated :
      let built := plainBuilder.build (plainBuilder.after [brokenCall]) brokenCall.owner
        brokenCall.path brokenCall.world
      built.1.2.map (Option.map Module.id) = .ok (some "./index.js") ∧
        built.1.1.modules.modules.map (fun member => (member.id, member.requires)) =
          [("./index.js", ["./b.js"])] ∧
        built.1.1.modules.contains "./b.js" = false := by
    decide +kernel
  rcases ran : plainBuilder.build (plainBuilder.after [brokenCall]) brokenCall.owner
    brokenCall.path brokenCall.world with ⟨⟨later, result⟩, final⟩
  rw [ran] at evaluated
  rcases evaluated with ⟨returned, modules, missing⟩
  rcases result with cause | _ | first
  · cases returned
  · cases returned
  · have firstId : first.id = "./index.js" := Option.some.inj (Except.ok.inj returned)
    have listed : ("./index.js", ["./b.js"]) ∈
        later.modules.modules.map fun member => (member.id, member.requires) := by
      rw [modules]
      exact List.mem_singleton_self _
    rcases List.mem_map.mp listed with ⟨member, inside, same⟩
    rcases Prod.mk.inj same with ⟨sameId, sameRequires⟩
    refine ⟨later, first, final, rfl, ?_, missing⟩
    rw [firstId]
    exact .single ⟨member, inside, sameId, sameRequires ▸ List.mem_singleton_self _⟩

/-- Statuses and modules agree, and each module is found by the identifier of
its file. -/
structure Consistent (builder : ModuleBuilder) (state : BuildState) : Prop where
  status : ∀ id, state.status? id = if state.modules.contains id then some .built else none
  stored : ∀ member ∈ state.modules.modules, member.id = builder.idOf member.path ∧
    state.modules.get? (builder.idOf member.path) = some member

theorem Sound.consistent (sound : builder.Sound state) : builder.Consistent state := by
  constructor
  · intro id
    have same := sound.settled.hasStatus_eq id
    rw [BuildState.hasStatus] at same
    cases given : state.status? id with
    | none =>
        rw [given] at same
        rw [← same]
        rfl
    | some status =>
        rw [given] at same
        rw [← same, sound.settled.allBuilt id status given]
        rfl
  · intro member inside
    rcases sound.built member inside with ⟨world, known, made⟩
    refine ⟨made.hasId, ?_⟩
    rw [← made.hasId]
    exact ModuleTable.get?_id inside

theorem Consistent.status?_eq_none (consistent : builder.Consistent state) {id : String}
    (absent : state.modules.contains id = false) : state.status? id = none := by
  rw [consistent.status id, absent]
  rfl

/-- What a call does to a builder after any calls before it, which came with
files of their own and may have failed.  It leaves a consistent state with the
modules that were there, in their places; and it finds the module of its path,
or it failed on a module that has no status afterwards. -/
theorem call_keepsConsistent (builder : ModuleBuilder) (calls : List Call) (call : Call) :
    let before := builder.after calls
    let later := builder.after (calls ++ [call])
    builder.Consistent later ∧
      before.modules.modules <+: later.modules.modules ∧
      match builder.build before call.owner call.path call.world with
      | ((_, .ok found), _) => ∃ first, found = some first ∧
          later.modules.get? (builder.idOf call.path) = some first
      | ((_, .error cause), final) => ∃ path reading, reading.SameFiles call.world ∧
          builder.make (builder.knownWhile later path) call.owner path reading =
            (.error cause, final) ∧
          later.status? (builder.idOf path) = none := by
  have settled := (builder.sound_after calls).settled
  have consistent := (builder.sound_after (calls ++ [call])).consistent
  rcases builder.visits_build (builder.after calls) call.owner call.path call.world with
      ⟨left, result, final, visit, called⟩
  have reached : builder.after (calls ++ [call]) = left := by
    rw [after_append_singleton, perform, called]
  have grown := visit.grown settled
  rw [reached] at consistent
  dsimp only
  rw [reached, called]
  refine ⟨consistent, grown.kept, ?_⟩
  cases result with
  | ok done =>
      rcases exists_entry settled visit with ⟨first, found⟩
      exact ⟨first, found, found⟩
  | error cause =>
      rcases visit.refused rfl with ⟨path, reading, same, unknown, refused⟩
      have absent : left.modules.contains (builder.idOf path) = false := by
        rw [← grown.settled.hasStatus_eq]
        exact unknown
      exact ⟨path, reading, same, refused, consistent.status?_eq_none absent⟩

end ModuleBuilder

end ScriptBundle
