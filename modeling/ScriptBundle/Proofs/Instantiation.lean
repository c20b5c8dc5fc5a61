import Mathlib.Data.List.Nodup
import Mathlib.Data.List.Perm.Subperm
import ScriptBundle.Proofs.Execution
import ScriptBundle.Proofs.SelfContained

/-!
# Modules are started once

A call of `require` puts the record of a module into the cache before it runs
the code of the module, and runs it only where the cache had nothing.  So
whatever the modules of a bundle do, and however their calls are inside each
other, no code is started twice, and each identifier stands for one record.

What carries this through a run is said of the memory and of the frames: every
record that was seen is the one in the cache, every frame below another waits
with nothing left to do but to answer, and the innermost frame is at one of the
few places that its program has.
-/

namespace ScriptBundle

namespace Runtime

variable {chunk : Chunk} {memory : Memory} {id other : String} {record : Nat}

namespace Memory

@[simp]
theorem recordOf?_note (memory : Memory) (event : Event) :
    (memory.note event).recordOf? = memory.recordOf? :=
  rfl

theorem recordOf?_create (memory : Memory) (id other : String) :
    (memory.create id).recordOf? other =
      if other = id then some memory.created else memory.recordOf? other := by
  rw [recordOf?, create, List.lookup_cons]
  by_cases same : other = id
  · rw [if_pos same, beq_iff_eq.mpr same]
  · rw [if_neg same, beq_eq_false_iff_ne.mpr same]
    rfl

/-- A new record takes no place of another. -/
theorem recordOf?_create_of_some (absent : memory.recordOf? id = none)
    (found : memory.recordOf? other = some record) :
    (memory.create id).recordOf? other = some record := by
  rw [recordOf?_create, if_neg, found]
  rintro rfl
  rw [absent] at found
  cases found

@[simp]
theorem startedIds_create (memory : Memory) (id : String) :
    (memory.create id).startedIds = memory.startedIds :=
  rfl

@[simp]
theorem startedIds_note_started (memory : Memory) (id : String) (record : Nat) :
    (memory.note (.started id record)).startedIds = id :: memory.startedIds :=
  rfl

@[simp]
theorem startedIds_note_answered (memory : Memory) (id : String) (record : Nat) :
    (memory.note (.answered id record)).startedIds = memory.startedIds :=
  rfl

theorem mem_startedIds_iff :
    id ∈ memory.startedIds ↔ ∃ record, .started id record ∈ memory.events := by
  rw [startedIds, List.mem_filterMap]
  constructor
  · rintro ⟨event, listed, told⟩
    cases event with
    | started name record =>
        cases told
        exact ⟨record, listed⟩
    | answered name record => cases told
    | answeredInherited name => cases told
    | refused name => cases told
  · rintro ⟨record, listed⟩
    exact ⟨.started id record, listed, rfl⟩

/-- What holds of the memory of a script at any time. -/
structure Sound (chunk : Chunk) (memory : Memory) : Prop where
  /-- No code was started twice. -/
  started_once : memory.startedIds.Nodup
  /-- Whatever happened was about a registered module, and its record is in the
  cache. -/
  recorded : ∀ event ∈ memory.events, ∃ id record,
    (event = .started id record ∨ event = .answered id record) ∧
      memory.recordOf? id = some record ∧ id ∈ registered chunk
  earlier : ∀ pair ∈ memory.cache, pair.2 < memory.created
  distinct : (memory.cache.map Prod.snd).Nodup

theorem sound_empty (chunk : Chunk) : Sound chunk .empty where
  started_once := .nil
  recorded := fun _ listed => absurd listed List.not_mem_nil
  earlier := fun _ listed => absurd listed List.not_mem_nil
  distinct := .nil

namespace Sound

/-- A record is created where the cache has none. -/
theorem create (sound : Sound chunk memory) (absent : memory.recordOf? id = none) :
    Sound chunk (memory.create id) where
  started_once := sound.started_once
  recorded := by
    intro event listed
    rcases sound.recorded event listed with ⟨name, record, told, found, known⟩
    exact ⟨name, record, told, recordOf?_create_of_some absent found, known⟩
  earlier := by
    intro pair listed
    rcases List.mem_cons.mp listed with rfl | before
    · exact Nat.lt_succ_self _
    · exact Nat.lt_succ_of_lt (sound.earlier pair before)
  distinct := by
    rw [Memory.create, List.map_cons, List.nodup_cons]
    refine ⟨?_, sound.distinct⟩
    intro listed
    rcases List.mem_map.mp listed with ⟨pair, before, same⟩
    exact Nat.lt_irrefl _ (same ▸ sound.earlier pair before)

theorem answered (sound : Sound chunk memory) (found : memory.recordOf? id = some record)
    (known : id ∈ registered chunk) : Sound chunk (memory.note (.answered id record)) where
  started_once := sound.started_once
  recorded := by
    intro event listed
    rcases List.mem_cons.mp listed with rfl | before
    · exact ⟨id, record, .inr rfl, found, known⟩
    · exact sound.recorded event before
  earlier := sound.earlier
  distinct := sound.distinct

/-- A module is started once, after its record was put into the cache. -/
theorem started (sound : Sound chunk memory) (found : memory.recordOf? id = some record)
    (known : id ∈ registered chunk) (fresh : id ∉ memory.startedIds) :
    Sound chunk (memory.note (.started id record)) where
  started_once := by
    rw [startedIds_note_started]
    exact List.nodup_cons.mpr ⟨fresh, sound.started_once⟩
  recorded := by
    intro event listed
    rcases List.mem_cons.mp listed with rfl | before
    · exact ⟨id, record, .inl rfl, found, known⟩
    · exact sound.recorded event before
  earlier := sound.earlier
  distinct := sound.distinct

/-- A record that was seen under an identifier is the one in the cache. -/
theorem recordOf?_of_sees (sound : Sound chunk memory) (sees : memory.Sees id record) :
    memory.recordOf? id = some record ∧ id ∈ registered chunk := by
  rcases sees with listed | listed
  · rcases sound.recorded _ listed with ⟨name, number, same | same, found, known⟩
    · cases same
      exact ⟨found, known⟩
    · cases same
  · rcases sound.recorded _ listed with ⟨name, number, same | same, found, known⟩
    · cases same
    · cases same
      exact ⟨found, known⟩

theorem recordOf?_of_started (sound : Sound chunk memory) (started : id ∈ memory.startedIds) :
    ∃ record, memory.recordOf? id = some record := by
  rcases mem_startedIds_iff.mp started with ⟨record, listed⟩
  exact ⟨record, (sound.recordOf?_of_sees (.inl listed)).1⟩

theorem not_started (sound : Sound chunk memory) (absent : memory.recordOf? id = none) :
    id ∉ memory.startedIds := by
  intro started
  rcases sound.recordOf?_of_started started with ⟨record, found⟩
  rw [absent] at found
  cases found

/-- Two identifiers have two records. -/
theorem eq_of_recordOf?_eq (sound : Sound chunk memory)
    (found : memory.recordOf? id = some record)
    (otherFound : memory.recordOf? other = some record) : id = other := by
  have listed : ∀ {name : String}, memory.recordOf? name = some record →
      (name, record) ∈ memory.cache := by
    intro name told
    rcases List.lookup_eq_some_iff.mp told with ⟨before, after, whole, -⟩
    rw [whole]
    exact List.mem_append_right _ List.mem_cons_self
  have same := List.inj_on_of_nodup_map sound.distinct (listed found) (listed otherFound) rfl
  exact congrArg Prod.fst same

end Sound

end Memory

/-- A frame that has something else to come back from: a call that has only to
answer with its record, or a script that has nothing left to do. -/
inductive Waits (chunk : Chunk) (memory : Memory) : Frame → Prop where
  | script {module : Option Nat} : Waits chunk memory (.script module [])
  | call {id : String} {cached : Value} {record : Nat} (known : id ∈ registered chunk)
      (found : memory.recordOf? id = some record) :
      Waits chunk memory (.call id cached (some record) [.answer])
  | body {id : String} {record : Nat} : Waits chunk memory (.body id record)

/-- The places that the innermost frame can be at. -/
inductive Acts (chunk : Chunk) (memory : Memory) : Frame → Prop where
  | begun (empty : memory = .empty) :
      Acts chunk memory (.script none [.createRecord, .bindExports, .runEntry])
  | seeded {record : Nat} (found : memory.recordOf? chunk.entry.id = some record)
      (quiet : memory.events = []) :
      Acts chunk memory (.script (some record) [.bindExports, .runEntry])
  | bound {record : Nat} (found : memory.recordOf? chunk.entry.id = some record)
      (quiet : memory.events = []) : Acts chunk memory (.script (some record) [.runEntry])
  | entered {id : String} (known : id ∈ registered chunk) :
      Acts chunk memory (.call id .undefined none
        [.lookUp, .answerCached, .refuseUnknown, .createRecord, .runBody, .answer])
  | asked {id : String} {cached : Value} (known : id ∈ registered chunk)
      (told : cached = memory.property id) :
      Acts chunk memory (.call id cached none
        [.answerCached, .refuseUnknown, .createRecord, .runBody, .answer])
  | missed {id : String} (known : id ∈ registered chunk) (absent : memory.recordOf? id = none) :
      Acts chunk memory
        (.call id .undefined none [.refuseUnknown, .createRecord, .runBody, .answer])
  | admitted {id : String} (known : id ∈ registered chunk)
      (absent : memory.recordOf? id = none) :
      Acts chunk memory (.call id .undefined none [.createRecord, .runBody, .answer])
  | recorded {id : String} {record : Nat} (known : id ∈ registered chunk)
      (found : memory.recordOf? id = some record) (fresh : id ∉ memory.startedIds) :
      Acts chunk memory (.call id .undefined (some record) [.runBody, .answer])
  | waits {frame : Frame} (waits : Waits chunk memory frame) : Acts chunk memory frame

theorem Waits.create {frame : Frame} (waits : Waits chunk memory frame)
    (absent : memory.recordOf? id = none) : Waits chunk (memory.create id) frame := by
  cases waits with
  | script => exact .script
  | call known found => exact .call known (Memory.recordOf?_create_of_some absent found)
  | body => exact .body

theorem Waits.note {frame : Frame} (waits : Waits chunk memory frame) (event : Event) :
    Waits chunk (memory.note event) frame := by
  cases waits with
  | script => exact .script
  | call known found => exact .call known found
  | body => exact .body

/-- Frames of which the innermost acts and all others wait. -/
inductive Stack (chunk : Chunk) (memory : Memory) : List Frame → Prop where
  | nil : Stack chunk memory []
  | cons {top : Frame} {below : List Frame} (acts : Acts chunk memory top)
      (waits : ∀ frame ∈ below, Waits chunk memory frame) : Stack chunk memory (top :: below)

theorem stack_of_waits {frames : List Frame} (waits : ∀ frame ∈ frames, Waits chunk memory frame) :
    Stack chunk memory frames := by
  cases frames with
  | nil => exact .nil
  | cons top below =>
      rcases List.forall_mem_cons.mp waits with ⟨topWaits, belowWaits⟩
      exact .cons (.waits topWaits) belowWaits

/-! ## States -/

/-- A chunk that holds the modules that its modules require, none of which has
the name of something that all objects have. -/
structure Closed (chunk : Chunk) : Prop where
  entry : chunk.entry.id ∈ registered chunk
  required : ∀ member ∈ chunk.modules, ∀ id ∈ member.requires, id ∈ registered chunk
  plain : ∀ id ∈ registered chunk, id ∉ inheritedNames

/-- A module may require what it requires. -/
def Required (member : Module) (id : String) : Prop :=
  id ∈ member.requires

/-- What holds of a script at any time. -/
structure State.Sound (chunk : Chunk) (state : State) : Prop where
  memory : state.memory.Sound chunk
  stack : Stack chunk state.memory state.frames
  /-- The code that runs was started, and in the order of the frames. -/
  bodies : (state.frames.filterMap Frame.bodyId?).Sublist state.memory.startedIds

theorem State.sound_start (chunk : Chunk) : State.Sound chunk .start where
  memory := Memory.sound_empty chunk
  stack := .cons (.begun rfl) (fun _ listed => absurd listed List.not_mem_nil)
  bodies := List.Sublist.refl _

theorem absent_of_property (told : memory.property id = .undefined) :
    memory.recordOf? id = none := by
  cases found : memory.recordOf? id with
  | none => rfl
  | some record =>
      rw [Memory.property, found] at told
      cases told

theorem recordOf?_of_property (told : memory.property id = .record record) :
    memory.recordOf? id = some record := by
  rw [Memory.property] at told
  cases found : memory.recordOf? id with
  | none =>
      rw [found] at told
      dsimp only at told
      split at told
      · cases told
      · cases told
  | some number =>
      rw [found] at told
      cases told
      rfl

/-- The cache has no property for a registered identifier but its record. -/
theorem property_of_absent (closed : Closed chunk) (known : id ∈ registered chunk)
    (absent : memory.recordOf? id = none) : memory.property id = .undefined := by
  have own : inheritedNames.contains id = false := by
    simpa using closed.plain id known
  rw [Memory.property, absent, own]
  rfl

theorem property_ne_inherited (closed : Closed chunk) (known : id ∈ registered chunk) :
    memory.property id ≠ .inherited := by
  intro told
  cases found : memory.recordOf? id with
  | none =>
      rw [property_of_absent closed known found] at told
      cases told
  | some record =>
      rw [Memory.property, found] at told
      cases told

/-- What holds at a time holds after one more step. -/
theorem State.Sound.step {state next : State} (closed : Closed chunk)
    (sound : state.Sound chunk) (step : Step chunk Required state next) : next.Sound chunk := by
  rcases sound with ⟨memorySound, stack, bodies⟩
  cases step with
  | @createEntry memory module rest below =>
      rcases stack with _ | ⟨acts, waits⟩
      cases acts with
      | begun empty =>
          subst empty
          refine ⟨memorySound.create rfl, .cons (.seeded ?_ rfl) ?_, bodies⟩
          · rw [Memory.recordOf?_create, if_pos rfl]
          · intro frame listed
            exact (waits frame listed).create rfl
      | waits topWaits => cases topWaits
  | bindExports =>
      rcases stack with _ | ⟨acts, waits⟩
      cases acts with
      | seeded found quiet => exact ⟨memorySound, .cons (.bound found quiet) waits, bodies⟩
      | waits topWaits => cases topWaits
  | @runEntry memory record rest below =>
      rcases stack with _ | ⟨acts, waits⟩
      cases acts with
      | bound found quiet =>
          have fresh : chunk.entry.id ∉ memory.startedIds := by
            rw [Memory.startedIds, quiet]
            exact List.not_mem_nil
          refine ⟨memorySound.started found closed.entry fresh, .cons (.waits .body) ?_,
            bodies.cons_cons _⟩
          intro frame listed
          rcases List.mem_cons.mp listed with rfl | deeper
          · exact .script
          · exact (waits frame deeper).note _
      | waits topWaits => cases topWaits
  | finishScript =>
      rcases stack with _ | ⟨acts, waits⟩
      exact ⟨memorySound, stack_of_waits waits, bodies⟩
  | lookUp =>
      rcases stack with _ | ⟨acts, waits⟩
      cases acts with
      | entered known => exact ⟨memorySound, .cons (.asked known rfl) waits, bodies⟩
      | waits topWaits => cases topWaits
  | passCached =>
      rcases stack with _ | ⟨acts, waits⟩
      cases acts with
      | asked known told =>
          exact ⟨memorySound, .cons (.missed known (absent_of_property told.symm)) waits, bodies⟩
      | waits topWaits => cases topWaits
  | answerCached =>
      rcases stack with _ | ⟨acts, waits⟩
      cases acts with
      | asked known told =>
          refine ⟨memorySound.answered (recordOf?_of_property told.symm) known, ?_, bodies⟩
          exact stack_of_waits fun frame listed => (waits frame listed).note _
      | waits topWaits => cases topWaits
  | @answerInherited memory id module rest below =>
      rcases stack with _ | ⟨acts, waits⟩
      cases acts with
      | asked known told => exact absurd told.symm (property_ne_inherited closed known)
      | waits topWaits => cases topWaits
  | passKnown known =>
      rcases stack with _ | ⟨acts, waits⟩
      cases acts with
      | missed _ absent => exact ⟨memorySound, .cons (.admitted known absent) waits, bodies⟩
      | waits topWaits => cases topWaits
  | refuseUnknown unknown =>
      rcases stack with _ | ⟨acts, waits⟩
      cases acts with
      | missed known absent => exact absurd known unknown
      | waits topWaits => cases topWaits
  | @createRecord memory id cached module rest below =>
      rcases stack with _ | ⟨acts, waits⟩
      cases acts with
      | admitted known absent =>
          refine ⟨memorySound.create absent, .cons (.recorded known ?_ ?_) ?_, bodies⟩
          · rw [Memory.recordOf?_create, if_pos rfl]
          · exact memorySound.not_started absent
          · intro frame listed
            exact (waits frame listed).create absent
      | waits topWaits => cases topWaits
  | runBody known =>
      rcases stack with _ | ⟨acts, waits⟩
      cases acts with
      | recorded _ found fresh =>
          refine ⟨memorySound.started found known fresh, .cons (.waits .body) ?_,
            bodies.cons_cons _⟩
          intro frame listed
          rcases List.mem_cons.mp listed with rfl | deeper
          · exact .call known found
          · exact (waits frame deeper).note _
      | waits topWaits => cases topWaits
  | answer =>
      rcases stack with _ | ⟨acts, waits⟩
      cases acts with
      | waits topWaits =>
          cases topWaits with
          | call known found =>
              refine ⟨memorySound.answered found known, ?_, bodies⟩
              exact stack_of_waits fun frame listed => (waits frame listed).note _
  | require isOpen listed started permits =>
      refine ⟨memorySound, .cons (.entered (closed.required _ listed _ permits)) ?_, bodies⟩
      rcases isOpen.2 with idle | ⟨id, record, below, running⟩
      · rw [idle]
        intro frame listed
        cases listed
      · rw [running] at stack ⊢
        rcases stack with _ | ⟨acts, waits⟩
        intro frame listed
        rcases List.mem_cons.mp listed with rfl | deeper
        · exact .body
        · exact waits frame deeper
  | finish =>
      rcases stack with _ | ⟨acts, waits⟩
      exact ⟨memorySound, stack_of_waits waits, (List.sublist_cons_self _ _).trans bodies⟩
  | raise => exact ⟨memorySound, stack, bodies⟩
  | handle => exact ⟨memorySound, stack, bodies⟩
  | @unwind memory frame below =>
      rcases stack with _ | ⟨acts, waits⟩
      refine ⟨memorySound, stack_of_waits waits, ?_⟩
      exact ((List.sublist_cons_self frame below).filterMap _).trans bodies
  | report => exact ⟨memorySound, stack, bodies⟩

/-- The program of a bundle is never stuck. -/
theorem State.Sound.exists_step {state : State} (sound : state.Sound chunk)
    (running : state.frames ≠ []) :
    ∃ next, Step chunk Required state next := by
  rcases state with ⟨memory, _ | ⟨top, below⟩, _ | _⟩
  · exact absurd rfl running
  · exact absurd rfl running
  · rcases sound.stack with _ | ⟨acts, waits⟩
    cases acts with
    | begun => exact ⟨_, .createEntry⟩
    | seeded => exact ⟨_, .bindExports⟩
    | bound => exact ⟨_, .runEntry⟩
    | entered known => exact ⟨_, .lookUp⟩
    | @asked id cached known told =>
        cases cached with
        | undefined => exact ⟨_, .passCached⟩
        | record number => exact ⟨_, .answerCached⟩
        | inherited => exact ⟨_, .answerInherited⟩
    | missed known absent => exact ⟨_, .passKnown known⟩
    | admitted known absent => exact ⟨_, .createRecord⟩
    | recorded known found fresh => exact ⟨_, .runBody known⟩
    | waits topWaits =>
        cases topWaits with
        | script => exact ⟨_, .finishScript⟩
        | call known found => exact ⟨_, .answer⟩
        | body => exact ⟨_, .finish⟩
  · exact ⟨_, .unwind⟩

theorem mem_startedIds_of_step {permitted : Module → String → Prop} {state next : State}
    (step : Step chunk permitted state next) (started : id ∈ state.memory.startedIds) :
    id ∈ next.memory.startedIds := by
  cases step with
  | runEntry => exact List.mem_cons_of_mem _ started
  | runBody known => exact List.mem_cons_of_mem _ started
  | _ => exact started

/-! ## Runs -/

theorem After.sound {count : Nat} {state : State} (closed : Closed chunk)
    (after : After chunk Required count state) : state.Sound chunk := by
  induction after with
  | start => exact State.sound_start chunk
  | step after step induction => exact induction.step closed step

/-- The script begins by starting the module of the entry. -/
theorem After.early {permitted : Module → String → Prop} {count : Nat} {state : State}
    (after : After chunk permitted count state) :
    (count = 0 ∧ state = .start) ∨
      (count = 1 ∧ state = ⟨Memory.empty.create chunk.entry.id,
        [.script (some 0) [.bindExports, .runEntry]], false⟩) ∨
      (count = 2 ∧ state = ⟨Memory.empty.create chunk.entry.id,
        [.script (some 0) [.runEntry]], false⟩) ∨
      chunk.entry.id ∈ state.memory.startedIds := by
  induction after with
  | start => exact .inl ⟨rfl, rfl⟩
  | @step count state next after step induction =>
      rcases induction with ⟨rfl, rfl⟩ | ⟨rfl, rfl⟩ | ⟨rfl, rfl⟩ | started
      · change Step chunk permitted
          ⟨.empty, [.script none [.createRecord, .bindExports, .runEntry]], false⟩ next at step
        cases step with
        | createEntry => exact .inr (.inl ⟨rfl, rfl⟩)
        | require isOpen => exact absurd isOpen (State.not_isOpen rfl)
      · cases step with
        | bindExports => exact .inr (.inr (.inl ⟨rfl, rfl⟩))
        | require isOpen => exact absurd isOpen (State.not_isOpen rfl)
      · cases step with
        | runEntry => exact .inr (.inr (.inr List.mem_cons_self))
        | require isOpen => exact absurd isOpen (State.not_isOpen rfl)
      · exact .inr (.inr (.inr (mem_startedIds_of_step step started)))

/-- What is promised of a script after a number of steps. -/
structure State.InstantiatesOnce (chunk : Chunk) (count : Nat) (state : State) : Prop where
  /-- No code is started twice. -/
  started_once : state.memory.startedIds.Nodup
  started_registered : ∀ id ∈ state.memory.startedIds, id ∈ registered chunk
  /-- The code of the entry is started by the third step, and not again. -/
  entry_once : 3 ≤ count → state.memory.startedIds.count chunk.entry.id = 1
  /-- Under one identifier one record is seen. -/
  one_record : ∀ id record other, state.memory.Sees id record → state.memory.Sees id other →
    record = other
  /-- Under two identifiers two records are seen. -/
  own_record : ∀ id other record, state.memory.Sees id record → state.memory.Sees other record →
    id = other
  /-- Calls are answered with records. -/
  answered : ∀ id, .answeredInherited id ∉ state.memory.events
  /-- No call is refused. -/
  found : ∀ id, .refused id ∉ state.memory.events
  nested : (state.frames.filterMap Frame.bodyId?).length ≤ chunk.modules.length
  /-- The script goes on until nothing is being executed. -/
  goes_on : state.frames ≠ [] → ∃ next, Step chunk Required state next

theorem After.instantiatesOnce {count : Nat} {state : State} (closed : Closed chunk)
    (after : After chunk Required count state) : state.InstantiatesOnce chunk count := by
  have sound := after.sound closed
  have registered_of_started : ∀ id ∈ state.memory.startedIds, id ∈ registered chunk := by
    intro id started
    rcases Memory.mem_startedIds_iff.mp started with ⟨record, listed⟩
    exact (sound.memory.recordOf?_of_sees (.inl listed)).2
  have only_records : ∀ event ∈ state.memory.events, ∃ id record,
      event = .started id record ∨ event = .answered id record := by
    intro event listed
    rcases sound.memory.recorded event listed with ⟨id, record, told, -, -⟩
    exact ⟨id, record, told⟩
  constructor
  · exact sound.memory.started_once
  · exact registered_of_started
  · intro enough
    apply List.count_eq_one_of_mem sound.memory.started_once
    rcases after.early with ⟨rfl, -⟩ | ⟨rfl, -⟩ | ⟨rfl, -⟩ | started
    · omega
    · omega
    · omega
    · exact started
  · intro id record other sees otherSees
    have found := (sound.memory.recordOf?_of_sees sees).1
    rw [(sound.memory.recordOf?_of_sees otherSees).1] at found
    exact (Option.some.inj found).symm
  · intro id other record sees otherSees
    exact sound.memory.eq_of_recordOf?_eq (sound.memory.recordOf?_of_sees sees).1
      (sound.memory.recordOf?_of_sees otherSees).1
  · intro id listed
    rcases only_records _ listed with ⟨name, record, same | same⟩
    · cases same
    · cases same
  · intro id listed
    rcases only_records _ listed with ⟨name, record, same | same⟩
    · cases same
    · cases same
  · have within : state.memory.startedIds.length ≤ (registered chunk).length :=
      (sound.memory.started_once.subperm registered_of_started).length_le
    rw [registered, List.length_map] at within
    exact Nat.le_trans sound.bodies.length_le within
  · exact sound.exists_step

/-- What the module of the entry requires can be started. -/
theorem exists_after_required (closed : Closed chunk) {member : Module}
    (listed : member ∈ chunk.modules) (isEntry : member.id = chunk.entry.id)
    (needed : id ∈ member.requires) (apart : id ≠ chunk.entry.id) :
    ∃ state, After chunk Required 9 state ∧
      state.memory.startedIds = [id, chunk.entry.id] := by
  have known := closed.required member listed id needed
  have started : member.id ∈ (State.begun chunk).memory.startedIds := by
    rw [isEntry]
    exact List.mem_cons_self
  have absent : (State.begun chunk).memory.recordOf? id = none := by
    change (Memory.empty.create chunk.entry.id).recordOf? id = none
    rw [Memory.recordOf?_create, if_neg apart]
    rfl
  have called := (After.begun chunk Required).step
    (.require (State.isOpen_begun chunk) listed started needed)
  have asked := called.step .lookUp
  rw [property_of_absent closed known absent] at asked
  have passed := (asked.step .passCached).step (.passKnown known)
  exact ⟨_, (passed.step .createRecord).step (.runBody known), rfl⟩

end Runtime

/-- No identifier has the name of something that all objects have. -/
theorem Path.identifier_not_inherited (root file : Path) :
    Path.identifier root file ∉ Runtime.inheritedNames := by
  have noDot : ∀ name ∈ Runtime.inheritedNames, name.toList.head? ≠ some '.' := by
    decide
  intro listed
  apply noDot _ listed
  rw [Path.identifier, String.toList_append]
  rfl

theorem Chunk.Holds.runtimeClosed {chunk : Chunk} {table : ModuleTable} {point : EntryPoint}
    (holds : chunk.Holds table point)
    (plain : ∀ member ∈ table.modules, member.id ∉ Runtime.inheritedNames) :
    Runtime.Closed chunk where
  entry := by
    rcases ModuleTable.get?_eq_some holds.entry with ⟨inside, sameId⟩
    apply List.mem_map_of_mem
    exact (holds.mem_iff chunk.entry).mpr ⟨inside, sameId ▸ .refl⟩
  required := by
    intro member listed id needed
    rcases holds.closed member listed id needed with ⟨other, otherListed, rfl⟩
    exact List.mem_map_of_mem otherListed
  plain := by
    intro id known
    rcases List.mem_map.mp known with ⟨member, listed, rfl⟩
    exact plain member ((holds.mem_iff member).mp listed).1

namespace Bundler

variable {bundler : Bundler} {world final : World}

/-- Each asset of a run has the modules that its modules require. -/
theorem run_closed {result : BuildResult} (succeeded : bundler.run world = (.ok result, final)) :
    ∀ asset ∈ result.assets, Runtime.Closed asset.chunk := by
  rcases run_ok succeeded with ⟨state, modules, progress, chunks, -⟩
  have held := progress.forall₂_chunks
  rw [modules, ← chunks] at held
  have plain : ∀ member ∈ result.modules.modules, member.id ∉ Runtime.inheritedNames := by
    rw [← modules]
    intro member inside
    rcases progress.built member inside with ⟨known, made⟩
    rw [made.hasId]
    exact Path.identifier_not_inherited _ _
  generalize bundler.config.entries.toList = entries at held
  generalize result.assets = assets at held
  induction assets generalizing entries with
  | nil =>
      intro asset listed
      cases listed
  | cons asset rest induction =>
      cases held with
      | cons first later =>
          intro other listed
          rcases List.mem_cons.mp listed with rfl | deeper
          · exact first.runtimeClosed plain
          · exact induction _ later other deeper

/-- The script of every bundle of a run that succeeds, run for any number of
steps with modules that do anything but require only what they require, starts
the code of each module once and that of its entry exactly once, gives each
module one record, and never misses a module. -/
theorem run_instantiatesOnce {result : BuildResult}
    (succeeded : bundler.run world = (.ok result, final)) :
    ∀ asset ∈ result.assets, asset.text = Runtime.script asset.chunk ∧
      ∀ count state, Runtime.After asset.chunk Runtime.Required count state →
        state.InstantiatesOnce asset.chunk count := by
  rcases run_ok succeeded with ⟨-, -, -, -, texts⟩
  intro asset listed
  refine ⟨(texts asset listed).trans (Runtime.bundle_eq_script asset.chunk), ?_⟩
  intro count state after
  exact after.instantiatesOnce (run_closed succeeded asset listed)

/-- The script of the first bundle of two modules that require each other, when
both were started. -/
theorem run_instantiatesOnce_shared :
    ∃ result final, sharedBundler.run sharedWorld = (.ok result, final) ∧
      ∃ asset ∈ result.assets, asset.text = Runtime.script asset.chunk ∧
        ∃ state, Runtime.After asset.chunk Runtime.Required 9 state ∧
          state.memory.startedIds = ["./c.js", "./a.js"] ∧
          state.InstantiatesOnce asset.chunk 9 := by
  have evaluated : ((sharedBundler.run sharedWorld).1.map fun result =>
      result.assets.head?.map fun asset => asset.chunk.entry.id == "./a.js" &&
        asset.chunk.modules.any fun member =>
          member.id == "./a.js" && member.requires.contains "./c.js").toOption =
      some (some true) := by
    decide +kernel
  rcases ran : sharedBundler.run sharedWorld with ⟨cause | result, final⟩
  · rw [ran] at evaluated
    cases evaluated
  · rw [ran] at evaluated
    rcases Option.map_eq_some_iff.mp (Option.some.inj evaluated) with ⟨asset, first, told⟩
    have listed := List.mem_of_head? first
    simp only [Bool.and_eq_true, beq_iff_eq, List.any_eq_true, List.contains_iff_mem] at told
    rcases told with ⟨entryId, member, inside, memberId, needed⟩
    have apart : "./c.js" ≠ asset.chunk.entry.id := by
      rw [entryId]
      decide
    rcases Runtime.exists_after_required (run_closed ran asset listed) inside
      (memberId.trans entryId.symm) needed apart with ⟨state, after, startedIds⟩
    rw [entryId] at startedIds
    rcases run_instantiatesOnce ran asset listed with ⟨text, once⟩
    exact ⟨result, final, rfl, asset, listed, text, state, after, startedIds, once 9 state after⟩

end Bundler

end ScriptBundle
