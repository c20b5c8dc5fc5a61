import ScriptBundle.Proofs.Instantiation

/-!
# Modules that are not there

A call of `require` asks two objects about an identifier, each in its own way.
The registry is asked whether it has the property itself, but of the cache the
property is simply read, and what is read may be inherited from what all objects
have.  So a text that is the identifier of no module is refused, unless it is
the name of such a property: then the call is answered with what the inherited
value has for exports, and nobody is told that there is no such module.

This does not depend on what the modules of a bundle require, nor on when.  The
records in the cache are always those of embedded modules, since a call makes
one only after both objects were asked; and while a call goes through its
statements nothing else can happen.
-/

namespace ScriptBundle

namespace Runtime

variable {chunk : Chunk} {permitted : Module → String → Prop} {memory : Memory} {id : String}
  {cached : Value} {module : Option Nat} {rest : List Statement} {below : List Frame}
  {state next goal other : State}

/-- However the script goes on from a state, it comes to another one. -/
inductive Inevitable (chunk : Chunk) (permitted : Module → String → Prop) (goal : State) :
    State → Prop where
  | here : Inevitable chunk permitted goal goal
  | later {state : State} (goesOn : ∃ next, Step chunk permitted state next)
      (always : ∀ next, Step chunk permitted state next → Inevitable chunk permitted goal next) :
      Inevitable chunk permitted goal state

/-- What has to happen after the only step that there is has to happen. -/
theorem Inevitable.of_step_iff (only : ∀ later, Step chunk permitted state later ↔ later = next)
    (inevitable : Inevitable chunk permitted goal next) :
    Inevitable chunk permitted goal state := by
  refine .later ⟨next, (only next).mpr rfl⟩ ?_
  intro later step
  rw [(only later).mp step]
  exact inevitable

/-- Of two things that have to happen one has to happen after the other. -/
theorem Inevitable.total (first : Inevitable chunk permitted goal state)
    (second : Inevitable chunk permitted other state) :
    Inevitable chunk permitted other goal ∨ Inevitable chunk permitted goal other := by
  induction first with
  | here => exact .inl second
  | later goesOn always induction =>
      cases second with
      | here => exact .inr (.later goesOn always)
      | later _ alwaysOther =>
          rcases goesOn with ⟨next, step⟩
          exact induction next step (alwaysOther next step)

/-- Nothing that happened is forgotten. -/
theorem Step.events_suffix (step : Step chunk permitted state next) :
    state.memory.events <:+ next.memory.events := by
  cases step with
  | runEntry => exact List.suffix_cons _ _
  | answerCached => exact List.suffix_cons _ _
  | answerInherited => exact List.suffix_cons _ _
  | refuseUnknown => exact List.suffix_cons _ _
  | runBody => exact List.suffix_cons _ _
  | answer => exact List.suffix_cons _ _
  | _ => exact List.suffix_rfl

theorem Inevitable.events_suffix (inevitable : Inevitable chunk permitted goal state) :
    state.memory.events <:+ goal.memory.events := by
  induction inevitable with
  | here => exact List.suffix_rfl
  | later goesOn _ induction =>
      rcases goesOn with ⟨next, step⟩
      exact step.events_suffix.trans (induction next step)

namespace State

/-- The state after code has called `require`. -/
def calling (state : State) (id : String) : State :=
  ⟨state.memory, .call id .undefined none requireProgram :: state.frames, false⟩

/-- A call of `require` throws the error that there is no such module.  No code
is started and no record is made; all that is left of the call is that it was
refused. -/
def Refuses (chunk : Chunk) (permitted : Module → String → Prop) (state : State) (id : String) :
    Prop :=
  Inevitable chunk permitted ⟨state.memory.note (.refused id), state.frames, true⟩
    (state.calling id)

/-- A call of `require` is answered with a property of something that is no
record, and throws nothing. -/
def AnswersInherited (chunk : Chunk) (permitted : Module → String → Prop) (state : State)
    (id : String) : Prop :=
  Inevitable chunk permitted ⟨state.memory.note (.answeredInherited id), state.frames, false⟩
    (state.calling id)

theorem not_answersInherited (refuses : state.Refuses chunk permitted id) :
    ¬ state.AnswersInherited chunk permitted id := by
  intro answers
  rcases refuses.total answers with later | later
  · cases later.events_suffix.eq_of_length rfl
  · cases later.events_suffix.eq_of_length rfl

end State

theorem step_lookUp_iff :
    Step chunk permitted ⟨memory, .call id cached module (.lookUp :: rest) :: below, false⟩ next ↔
      next = ⟨memory, .call id (memory.property id) module rest :: below, false⟩ := by
  constructor
  · intro step
    cases step with
    | lookUp => rfl
    | require isOpen => exact absurd isOpen (State.not_isOpen rfl)
  · rintro rfl
    exact .lookUp

theorem step_passCached_iff :
    Step chunk permitted
        ⟨memory, .call id .undefined module (.answerCached :: rest) :: below, false⟩ next ↔
      next = ⟨memory, .call id .undefined module rest :: below, false⟩ := by
  constructor
  · intro step
    cases step with
    | passCached => rfl
    | require isOpen => exact absurd isOpen (State.not_isOpen rfl)
  · rintro rfl
    exact .passCached

theorem step_answerInherited_iff :
    Step chunk permitted
        ⟨memory, .call id .inherited module (.answerCached :: rest) :: below, false⟩ next ↔
      next = ⟨memory.note (.answeredInherited id), below, false⟩ := by
  constructor
  · intro step
    cases step with
    | answerInherited => rfl
    | require isOpen => exact absurd isOpen (State.not_isOpen rfl)
  · rintro rfl
    exact .answerInherited

theorem step_refuseUnknown_iff (unknown : id ∉ registered chunk) :
    Step chunk permitted
        ⟨memory, .call id cached module (.refuseUnknown :: rest) :: below, false⟩ next ↔
      next = ⟨memory.note (.refused id), below, true⟩ := by
  constructor
  · intro step
    cases step with
    | passKnown known => exact absurd known unknown
    | refuseUnknown => rfl
    | require isOpen => exact absurd isOpen (State.not_isOpen rfl)
  · rintro rfl
    exact .refuseUnknown unknown

namespace State

/-- Without a record of its own an identifier is refused that the registry does
not have either, unless the cache inherits a property of this name. -/
theorem refuses_of_not_inherited (absent : state.memory.recordOf? id = none)
    (unknown : id ∉ registered chunk) (plain : id ∉ inheritedNames) :
    state.Refuses chunk permitted id := by
  have nothing : state.memory.property id = .undefined := by
    rw [Memory.property, absent]
    exact if_neg (by simpa using plain)
  apply Inevitable.of_step_iff fun _ => step_lookUp_iff
  rw [nothing]
  apply Inevitable.of_step_iff fun _ => step_passCached_iff
  apply Inevitable.of_step_iff fun _ => step_refuseUnknown_iff unknown
  exact .here

theorem answersInherited_of_inherited (absent : state.memory.recordOf? id = none)
    (inherited : id ∈ inheritedNames) : state.AnswersInherited chunk permitted id := by
  have something : state.memory.property id = .inherited := by
    rw [Memory.property, absent]
    exact if_pos (by simpa using inherited)
  apply Inevitable.of_step_iff fun _ => step_lookUp_iff
  rw [something]
  apply Inevitable.of_step_iff fun _ => step_answerInherited_iff
  exact .here

end State

/-! ## The records of the cache -/

/-- The identifiers of the modules that are embedded in the script of a chunk: in
the registry, and where the script starts its entry. -/
def embedded (chunk : Chunk) : List String :=
  chunk.entry.id :: registered chunk

/-- All records are those of embedded modules, and only the entry can have one
under the name of a property that all objects have. -/
def Memory.KeepsTo (chunk : Chunk) (memory : Memory) : Prop :=
  ∀ id record, memory.recordOf? id = some record →
    id = chunk.entry.id ∨ id ∈ registered chunk ∧ id ∉ inheritedNames

theorem Memory.KeepsTo.create (keeps : memory.KeepsTo chunk)
    (known : id = chunk.entry.id ∨ id ∈ registered chunk ∧ id ∉ inheritedNames) :
    (memory.create id).KeepsTo chunk := by
  intro name record found
  rw [recordOf?_create] at found
  by_cases same : name = id
  · rw [same]
    exact known
  · rw [if_neg same] at found
    exact keeps name record found

theorem not_inherited_of_property (told : memory.property id = .undefined) :
    id ∉ inheritedNames := by
  intro inherited
  rw [Memory.property, absent_of_property told] at told
  rw [if_pos (by simpa using inherited)] at told
  cases told

/-- A call that found nothing in the cache is about no property that all objects
have, and one that was let pass by the registry is about one of its modules. -/
inductive Frame.Guarded (chunk : Chunk) : Frame → Prop where
  | script {module : Option Nat} {rest : List StartStatement} : Guarded chunk (.script module rest)
  | entered {id : String} {cached : Value} {module : Option Nat} :
      Guarded chunk (.call id cached module requireProgram)
  | asked {id : String} {cached : Value} {module : Option Nat}
      (told : cached = .undefined → id ∉ inheritedNames) :
      Guarded chunk (.call id cached module
        [.answerCached, .refuseUnknown, .createRecord, .runBody, .answer])
  | missed {id : String} {cached : Value} {module : Option Nat} (plain : id ∉ inheritedNames) :
      Guarded chunk (.call id cached module [.refuseUnknown, .createRecord, .runBody, .answer])
  | admitted {id : String} {cached : Value} {module : Option Nat} {rest : List Statement}
      (known : id ∈ registered chunk) (plain : id ∉ inheritedNames) :
      Guarded chunk (.call id cached module rest)
  | body {id : String} {record : Nat} : Guarded chunk (.body id record)

/-- What holds of a script at any time, whatever its modules require. -/
structure State.Guarded (chunk : Chunk) (state : State) : Prop where
  keeps : state.memory.KeepsTo chunk
  frames : ∀ frame ∈ state.frames, frame.Guarded chunk

theorem State.guarded_start (chunk : Chunk) : State.Guarded chunk .start where
  keeps := by
    intro id record found
    cases found
  frames := List.forall_mem_singleton.mpr .script

theorem State.Guarded.step (guarded : state.Guarded chunk)
    (step : Step chunk permitted state next) : next.Guarded chunk := by
  rcases guarded with ⟨keeps, frames⟩
  cases step with
  | createEntry =>
      exact ⟨keeps.create (.inl rfl),
        List.forall_mem_cons.mpr ⟨.script, List.forall_mem_of_forall_mem_cons frames⟩⟩
  | bindExports =>
      exact ⟨keeps, List.forall_mem_cons.mpr ⟨.script, List.forall_mem_of_forall_mem_cons frames⟩⟩
  | runEntry =>
      exact ⟨keeps, List.forall_mem_cons.mpr ⟨.body,
        List.forall_mem_cons.mpr ⟨.script, List.forall_mem_of_forall_mem_cons frames⟩⟩⟩
  | finishScript => exact ⟨keeps, List.forall_mem_of_forall_mem_cons frames⟩
  | lookUp =>
      rcases List.forall_mem_cons.mp frames with ⟨call, others⟩
      refine ⟨keeps, List.forall_mem_cons.mpr ⟨?_, others⟩⟩
      cases call with
      | entered => exact .asked not_inherited_of_property
      | admitted known plain => exact .admitted known plain
  | passCached =>
      rcases List.forall_mem_cons.mp frames with ⟨call, others⟩
      refine ⟨keeps, List.forall_mem_cons.mpr ⟨?_, others⟩⟩
      cases call with
      | asked told => exact .missed (told rfl)
      | admitted known plain => exact .admitted known plain
  | answerCached => exact ⟨keeps, List.forall_mem_of_forall_mem_cons frames⟩
  | answerInherited => exact ⟨keeps, List.forall_mem_of_forall_mem_cons frames⟩
  | passKnown known =>
      rcases List.forall_mem_cons.mp frames with ⟨call, others⟩
      refine ⟨keeps, List.forall_mem_cons.mpr ⟨?_, others⟩⟩
      cases call with
      | missed plain => exact .admitted known plain
      | admitted _ plain => exact .admitted known plain
  | refuseUnknown => exact ⟨keeps, List.forall_mem_of_forall_mem_cons frames⟩
  | createRecord =>
      rcases List.forall_mem_cons.mp frames with ⟨call, others⟩
      -- only a call that both objects were asked about gets here
      cases call with
      | admitted known plain =>
          exact ⟨keeps.create (.inr ⟨known, plain⟩),
            List.forall_mem_cons.mpr ⟨.admitted known plain, others⟩⟩
  | runBody =>
      rcases List.forall_mem_cons.mp frames with ⟨call, others⟩
      refine ⟨keeps, List.forall_mem_cons.mpr ⟨.body, List.forall_mem_cons.mpr ⟨?_, others⟩⟩⟩
      cases call with
      | admitted known plain => exact .admitted known plain
  | answer => exact ⟨keeps, List.forall_mem_of_forall_mem_cons frames⟩
  | require => exact ⟨keeps, List.forall_mem_cons.mpr ⟨.entered, frames⟩⟩
  | finish => exact ⟨keeps, List.forall_mem_of_forall_mem_cons frames⟩
  | raise => exact ⟨keeps, frames⟩
  | handle => exact ⟨keeps, frames⟩
  | unwind => exact ⟨keeps, List.forall_mem_of_forall_mem_cons frames⟩
  | report => exact ⟨keeps, frames⟩

theorem After.guarded {count : Nat} (after : After chunk permitted count state) :
    state.Guarded chunk := by
  induction after with
  | start => exact State.guarded_start chunk
  | step after step induction => exact induction.step step

theorem Memory.KeepsTo.recordOf?_eq_none (keeps : memory.KeepsTo chunk)
    (unknown : id ∉ embedded chunk) : memory.recordOf? id = none := by
  cases found : memory.recordOf? id with
  | none => rfl
  | some record =>
      rcases keeps id record found with rfl | ⟨known, -⟩
      · exact absurd List.mem_cons_self unknown
      · exact absurd (List.mem_cons_of_mem _ known) unknown

/-- No record is assigned to the name of a property that all objects have. -/
theorem Memory.KeepsTo.recordOf?_of_inherited (keeps : memory.KeepsTo chunk)
    (inherited : id ∈ inheritedNames) (apart : chunk.entry.id ≠ id) :
    memory.recordOf? id = none := by
  cases found : memory.recordOf? id with
  | none => rfl
  | some record =>
      rcases keeps id record found with rfl | ⟨-, plain⟩
      · exact absurd rfl apart
      · exact absurd inherited plain

/-- A call of `require` with a text that is no identifier of an embedded module is
refused exactly if the text is not the name of a property that all objects have,
and is answered otherwise. -/
theorem After.refuses_iff {count : Nat} (after : After chunk permitted count state)
    (unknown : id ∉ embedded chunk) :
    (state.Refuses chunk permitted id ↔ id ∉ inheritedNames) ∧
      (state.AnswersInherited chunk permitted id ↔ id ∈ inheritedNames) := by
  have absent := after.guarded.keeps.recordOf?_eq_none unknown
  have refused (plain : id ∉ inheritedNames) : state.Refuses chunk permitted id :=
    State.refuses_of_not_inherited absent (mt (List.mem_cons_of_mem _) unknown) plain
  have answered (inherited : id ∈ inheritedNames) : state.AnswersInherited chunk permitted id :=
    State.answersInherited_of_inherited absent inherited
  refine ⟨⟨?_, refused⟩, ⟨?_, answered⟩⟩
  · intro refuses inherited
    exact State.not_answersInherited refuses (answered inherited)
  · intro answers
    by_contra plain
    exact State.not_answersInherited (refused plain) answers

/-- At any time of the script of a chunk, whatever its modules require, a call of
`require` with a text that is no identifier of an embedded module is refused,
starts nothing and leaves the cache as it was, exactly if the text is not the name
of a property that all objects have.  Otherwise the call is answered.

An object to which something is assigned under the name `__proto__` inherits from
that from then on.  It never happens to the cache, except in a script whose entry
is called so. -/
theorem bundle_refuses_iff {chunk : Chunk} (ordinary : chunk.entry.id ≠ "__proto__")
    (permitted : Module → String → Prop) :
    chunk.bundle = script chunk ∧
      ∀ count state, After chunk permitted count state →
        state.memory.recordOf? "__proto__" = none ∧
          ∀ id, id ∉ embedded chunk →
            (state.Refuses chunk permitted id ↔ id ∉ inheritedNames) ∧
              (state.AnswersInherited chunk permitted id ↔ id ∈ inheritedNames) := by
  refine ⟨bundle_eq_script chunk, ?_⟩
  intro count state after
  refine ⟨after.guarded.keeps.recordOf?_of_inherited (by decide) ordinary, ?_⟩
  intro id unknown
  exact after.refuses_iff unknown

/-- Modules may require any text. -/
def Anything (_ : Module) (_ : String) : Prop :=
  True

/-- The code of the entry may call `require` with any text. -/
theorem State.calls_begun (inside : chunk.entry.id ∈ registered chunk) (id : String) :
    Step chunk Anything (.begun chunk) ((State.begun chunk).calling id) := by
  rcases List.mem_map.mp inside with ⟨member, listed, isEntry⟩
  have started : member.id ∈ (State.begun chunk).memory.startedIds := by
    rw [isEntry]
    exact List.mem_cons_self
  exact .require (State.isOpen_begun chunk) listed started trivial

end Runtime

namespace Bundler

/-- No identifier of a module is `__proto__`.  So in the script of every bundle of
a run that succeeds, whatever its modules require, the cache inherits from nothing
but the common prototype, and calls of `require` with other texts than identifiers
are refused exactly as this one allows. -/
theorem run_refusesUnknown {bundler : Bundler} {world final : World} {result : BuildResult}
    (succeeded : bundler.run world = (.ok result, final))
    (permitted : Module → String → Prop) :
    ∀ asset ∈ result.assets, asset.text = Runtime.script asset.chunk ∧
      ∀ count state, Runtime.After asset.chunk permitted count state →
        state.memory.recordOf? "__proto__" = none ∧
          ∀ id, id ∉ Runtime.embedded asset.chunk →
            (state.Refuses asset.chunk permitted id ↔ id ∉ Runtime.inheritedNames) ∧
              (state.AnswersInherited asset.chunk permitted id ↔ id ∈ Runtime.inheritedNames) := by
  rcases run_ok succeeded with ⟨-, -, -, -, texts⟩
  intro asset listed
  have closed := run_closed succeeded asset listed
  have ordinary : asset.chunk.entry.id ≠ "__proto__" := by
    intro same
    apply closed.plain _ closed.entry
    rw [same]
    decide
  refine ⟨(texts asset listed).trans (Runtime.bundle_eq_script asset.chunk), ?_⟩
  intro count state after
  refine ⟨after.guarded.keeps.recordOf?_of_inherited (by decide) ordinary, ?_⟩
  intro id unknown
  exact after.refuses_iff unknown

/-- A module that requires what its code computes. -/
def dynamicWorld : World where
  tree := ⟨[(["work"], .directory),
    (["work", "index.js"], .file "const name = 'toString';\nrequire(name);\n".toUTF8)]⟩
  workingDirectory := ["work"]
  journal := []

def dynamicBundler : Bundler :=
  ⟨{ Config.default with entries := .single "./index.js" }, ⟨"/work"⟩, ⟨[]⟩, .none⟩

theorem exists_run_dynamic :
    ∃ result final, dynamicBundler.run dynamicWorld = (.ok result, final) ∧
      ∃ asset ∈ result.assets, asset.text = Runtime.script asset.chunk ∧
        Runtime.embedded asset.chunk = ["./index.js", "./index.js"] := by
  have evaluated : ((dynamicBundler.run dynamicWorld).1.map fun result =>
      result.assets.map fun asset => Runtime.embedded asset.chunk).toOption =
      some [["./index.js", "./index.js"]] := by
    decide +kernel
  rcases ran : dynamicBundler.run dynamicWorld with ⟨cause | result, final⟩
  · rw [ran] at evaluated
    cases evaluated
  · rw [ran] at evaluated
    have all : (result.assets.map fun asset => Runtime.embedded asset.chunk) =
        [["./index.js", "./index.js"]] := Option.some.inj evaluated
    have single : ["./index.js", "./index.js"] ∈
        result.assets.map fun asset => Runtime.embedded asset.chunk := by
      rw [all]
      exact List.mem_singleton_self _
    rcases List.mem_map.mp single with ⟨asset, listed, embedded⟩
    rcases run_ok ran with ⟨-, -, -, -, texts⟩
    exact ⟨result, final, rfl, asset, listed,
      (texts asset listed).trans (Runtime.bundle_eq_script asset.chunk), embedded⟩

/-- A text that names nothing is refused, and the name of a property that all
objects have is answered. -/
theorem bundle_refuses_iff_dynamic :
    ∃ result final, dynamicBundler.run dynamicWorld = (.ok result, final) ∧
      ∃ asset ∈ result.assets, asset.text = Runtime.script asset.chunk ∧
        ∃ state, Runtime.After asset.chunk Runtime.Anything 3 state ∧
          asset.chunk.entry.id ≠ "__proto__" ∧
          "./missing.js" ∉ Runtime.embedded asset.chunk ∧
          state.Refuses asset.chunk Runtime.Anything "./missing.js" ∧
          "toString" ∉ Runtime.embedded asset.chunk ∧
          state.AnswersInherited asset.chunk Runtime.Anything "toString" := by
  rcases exists_run_dynamic with ⟨result, final, ran, asset, listed, text, embedded⟩
  have missing : "./missing.js" ∉ Runtime.embedded asset.chunk := by
    rw [embedded]
    decide
  have unknown : "toString" ∉ Runtime.embedded asset.chunk := by
    rw [embedded]
    decide
  have ordinary : asset.chunk.entry.id ≠ "__proto__" := by
    rw [(List.cons.inj embedded).1]
    decide
  have after := Runtime.After.begun asset.chunk Runtime.Anything
  have calls := ((Runtime.bundle_refuses_iff ordinary Runtime.Anything).2 3 _ after).2
  exact ⟨result, final, ran, asset, listed, text, _, after, ordinary, missing,
    (calls _ missing).1.mpr (by decide), unknown, (calls _ unknown).2.mpr (by decide)⟩

/-- The code of a bundle calls `require` with a text that is no identifier of an
embedded module, and the call is not refused. -/
theorem inherited_name_not_refused :
    ∃ result final, dynamicBundler.run dynamicWorld = (.ok result, final) ∧
      ∃ asset ∈ result.assets, asset.text = Runtime.script asset.chunk ∧
        ∃ state, Runtime.After asset.chunk Runtime.Anything 3 state ∧
          Runtime.Step asset.chunk Runtime.Anything state (state.calling "toString") ∧
          "toString" ∉ Runtime.embedded asset.chunk ∧
          ¬ state.Refuses asset.chunk Runtime.Anything "toString" := by
  rcases exists_run_dynamic with ⟨result, final, ran, asset, listed, text, embedded⟩
  have unknown : "toString" ∉ Runtime.embedded asset.chunk := by
    rw [embedded]
    decide
  have inside : asset.chunk.entry.id ∈ Runtime.registered asset.chunk := by
    rcases List.cons.inj embedded with ⟨entry, others⟩
    rw [entry, others]
    exact List.mem_singleton_self _
  have after := Runtime.After.begun asset.chunk Runtime.Anything
  refine ⟨result, final, ran, asset, listed, text, _, after,
    Runtime.State.calls_begun inside "toString", unknown, ?_⟩
  intro refuses
  exact (after.refuses_iff unknown).1.mp refuses (by decide)

end Bundler

end ScriptBundle
