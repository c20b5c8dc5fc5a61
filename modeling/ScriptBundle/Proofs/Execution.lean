import ScriptBundle.Chunk

/-!
# Running bundles

The text around the modules of a bundle is a short program: three statements
start the module of the entry, and a call of `require` goes through six.  Here
these statements are executed one after the other.  The cache and the registry
are objects, so that a property that they do not have themselves may be
inherited from what all objects share.

What the modules do is left open.  While the code of a module runs it may call
`require`, finish, throw an error or catch one; and code of a module that was
started may be called at any time, also when the script has ended.
-/

namespace ScriptBundle.Runtime

/-- The statements that a call of `require` goes through. -/
inductive Statement where
  /-- Ask the cache for the identifier. -/
  | lookUp
  /-- Answer with what the cache has. -/
  | answerCached
  /-- Throw an error where the registry does not have the identifier. -/
  | refuseUnknown
  /-- Put a new record into the cache. -/
  | createRecord
  /-- Run the function of the registry on the record. -/
  | runBody
  /-- Answer with the new record. -/
  | answer
deriving DecidableEq, Repr

def Statement.lines : Statement → List String
  | .lookUp => ["    var cachedModule = cache[moduleId];"]
  | .answerCached =>
    ["    if (cachedModule !== undefined) \x7b",
      "      return cachedModule.exports;",
      "    \x7d"]
  | .refuseUnknown =>
    ["    if (!Object.prototype.hasOwnProperty.call(modules, moduleId)) \x7b",
      "      throw new Error(\"Cannot find module '\" + moduleId + \"'\");",
      "    \x7d"]
  | .createRecord =>
    ["    var module = (cache[moduleId] = \x7b",
      "      exports: \x7b\x7d,",
      "    \x7d);"]
  | .runBody => ["    modules[moduleId](module, module.exports, require);"]
  | .answer => ["    return module.exports;"]

/-- The inside of `require`. -/
def requireProgram : List Statement :=
  [.lookUp, .answerCached, .refuseUnknown, .createRecord, .runBody, .answer]

/-- The statements that start the module of the entry. -/
inductive StartStatement where
  /-- Put a new record for the entry into the cache. -/
  | createRecord
  /-- Name the exports of the record. -/
  | bindExports
  /-- Run the text of the entry's module. -/
  | runEntry
deriving DecidableEq, Repr

def StartStatement.lines (entry : Module) : StartStatement → List String
  | .createRecord =>
    ["  var module = (cache[" ++ Literal.quote entry.id ++ "] = \x7b",
      "    exports: \x7b\x7d,",
      "  \x7d);"]
  | .bindExports => ["  var exports = module.exports;"]
  | .runEntry =>
    ["  (() => \x7b",
      Text.trimEnd entry.source,
      "  \x7d)();"]

def startProgram : List StartStatement :=
  [.createRecord, .bindExports, .runEntry]

/-- The script of a chunk, made of the statements that are executed. -/
def script (chunk : Chunk) : String :=
  let lines : List String :=
    ["(() => \x7b",
      "  var modules = \x7b",
      ",\n".intercalate (chunk.modules.map Chunk.registryItem),
      "  \x7d;",
      "  var cache = \x7b\x7d;",
      "  function require(moduleId) \x7b"] ++
      requireProgram.flatMap Statement.lines ++
      ["  \x7d"] ++
      startProgram.flatMap (StartStatement.lines chunk.entry) ++
      ["\x7d)();"]
  "\n".intercalate lines ++ "\n"

/-- The bundle of a chunk is the script that is executed. -/
theorem bundle_eq_script (chunk : Chunk) : chunk.bundle = script chunk :=
  rfl

/-- What happened in a script. -/
inductive Event where
  /-- The code of a module was started on a record. -/
  | started (id : String) (record : Nat)
  /-- A call of `require` was answered with the exports of a record. -/
  | answered (id : String) (record : Nat)
  /-- A call was answered with a property of something that is no record. -/
  | answeredInherited (id : String)
  /-- A call threw the error that there is no such module. -/
  | refused (id : String)
deriving DecidableEq, Repr

/-- The cache, the number of records that were made, and what happened, the
latest first. -/
structure Memory where
  cache : List (String × Nat)
  created : Nat
  events : List Event
deriving DecidableEq, Repr

/-- The value of a property of the cache. -/
inductive Value where
  | undefined
  | record (number : Nat)
  /-- What all objects have. -/
  | inherited
deriving DecidableEq, Repr

/-- The names of the properties that all objects have. -/
def inheritedNames : List String :=
  ["constructor", "hasOwnProperty", "isPrototypeOf", "propertyIsEnumerable", "toLocaleString",
    "toString", "valueOf", "__proto__", "__defineGetter__", "__defineSetter__",
    "__lookupGetter__", "__lookupSetter__"]

namespace Memory

def empty : Memory :=
  ⟨[], 0, []⟩

/-- The record that the cache itself has for an identifier. -/
def recordOf? (memory : Memory) (id : String) : Option Nat :=
  memory.cache.lookup id

def property (memory : Memory) (id : String) : Value :=
  match memory.recordOf? id with
  | some number => .record number
  | none => if inheritedNames.contains id then .inherited else .undefined

/-- The memory with a new record for an identifier. -/
def create (memory : Memory) (id : String) : Memory :=
  { memory with cache := (id, memory.created) :: memory.cache, created := memory.created + 1 }

def note (memory : Memory) (event : Event) : Memory :=
  { memory with events := event :: memory.events }

/-- The identifiers of the modules whose code was started, the latest first. -/
def startedIds (memory : Memory) : List String :=
  memory.events.filterMap fun
    | .started id _ => some id
    | _ => none

/-- A record was seen under an identifier: the code of the module was started
on it, or a call was answered with its exports. -/
def Sees (memory : Memory) (id : String) (record : Nat) : Prop :=
  .started id record ∈ memory.events ∨ .answered id record ∈ memory.events

end Memory

/-- What is being executed, with what it has still to do. -/
inductive Frame where
  | script (module : Option Nat) (rest : List StartStatement)
  /-- A call of `require`, with its two variables. -/
  | call (id : String) (cachedModule : Value) (module : Option Nat) (rest : List Statement)
  /-- The code of a module, on its record. -/
  | body (id : String) (record : Nat)
deriving DecidableEq, Repr

/-- The identifier of the module whose code a frame runs. -/
def Frame.bodyId? : Frame → Option String
  | .body id _ => some id
  | _ => none

/-- A state of a script. -/
structure State where
  memory : Memory
  /-- What is being executed, innermost first. -/
  frames : List Frame
  /-- Whether an error was thrown that is not caught yet. -/
  raised : Bool
deriving DecidableEq, Repr

namespace State

def start : State :=
  ⟨.empty, [.script none startProgram], false⟩

/-- Whether the code of a module may act: it runs, or the script has ended and
something calls it. -/
def IsOpen (state : State) : Prop :=
  state.raised = false ∧
    (state.frames = [] ∨ ∃ id record below, state.frames = .body id record :: below)

theorem not_isOpen {memory : Memory} {top : Frame} {below : List Frame} {raised : Bool}
    (other : top.bodyId? = none) : ¬ IsOpen ⟨memory, top :: below, raised⟩ := by
  rintro ⟨-, idle | ⟨id, record, deeper, running⟩⟩
  · cases idle
  · cases running
    cases other

end State

/-- The identifiers of the modules in the registry of a chunk. -/
def registered (chunk : Chunk) : List String :=
  chunk.modules.map Module.id

/-- One step of the script of a chunk whose modules require only identifiers
that are permitted to them. -/
inductive Step (chunk : Chunk) (permitted : Module → String → Prop) : State → State → Prop where
  -- the statements of the start
  | createEntry {memory : Memory} {module : Option Nat} {rest : List StartStatement}
      {below : List Frame} :
      Step chunk permitted ⟨memory, .script module (.createRecord :: rest) :: below, false⟩
        ⟨memory.create chunk.entry.id, .script (some memory.created) rest :: below, false⟩
  | bindExports {memory : Memory} {record : Nat} {rest : List StartStatement}
      {below : List Frame} :
      Step chunk permitted ⟨memory, .script (some record) (.bindExports :: rest) :: below, false⟩
        ⟨memory, .script (some record) rest :: below, false⟩
  | runEntry {memory : Memory} {record : Nat} {rest : List StartStatement}
      {below : List Frame} :
      Step chunk permitted ⟨memory, .script (some record) (.runEntry :: rest) :: below, false⟩
        ⟨memory.note (.started chunk.entry.id record),
          .body chunk.entry.id record :: .script (some record) rest :: below, false⟩
  | finishScript {memory : Memory} {module : Option Nat} {below : List Frame} :
      Step chunk permitted ⟨memory, .script module [] :: below, false⟩ ⟨memory, below, false⟩
  -- the statements of a call
  | lookUp {memory : Memory} {id : String} {cached : Value} {module : Option Nat}
      {rest : List Statement} {below : List Frame} :
      Step chunk permitted ⟨memory, .call id cached module (.lookUp :: rest) :: below, false⟩
        ⟨memory, .call id (memory.property id) module rest :: below, false⟩
  | passCached {memory : Memory} {id : String} {module : Option Nat} {rest : List Statement}
      {below : List Frame} :
      Step chunk permitted
        ⟨memory, .call id .undefined module (.answerCached :: rest) :: below, false⟩
        ⟨memory, .call id .undefined module rest :: below, false⟩
  | answerCached {memory : Memory} {id : String} {record : Nat} {module : Option Nat}
      {rest : List Statement} {below : List Frame} :
      Step chunk permitted
        ⟨memory, .call id (.record record) module (.answerCached :: rest) :: below, false⟩
        ⟨memory.note (.answered id record), below, false⟩
  | answerInherited {memory : Memory} {id : String} {module : Option Nat}
      {rest : List Statement} {below : List Frame} :
      Step chunk permitted
        ⟨memory, .call id .inherited module (.answerCached :: rest) :: below, false⟩
        ⟨memory.note (.answeredInherited id), below, false⟩
  | passKnown {memory : Memory} {id : String} {cached : Value} {module : Option Nat}
      {rest : List Statement} {below : List Frame} (known : id ∈ registered chunk) :
      Step chunk permitted ⟨memory, .call id cached module (.refuseUnknown :: rest) :: below, false⟩
        ⟨memory, .call id cached module rest :: below, false⟩
  | refuseUnknown {memory : Memory} {id : String} {cached : Value} {module : Option Nat}
      {rest : List Statement} {below : List Frame} (unknown : id ∉ registered chunk) :
      Step chunk permitted ⟨memory, .call id cached module (.refuseUnknown :: rest) :: below, false⟩
        ⟨memory.note (.refused id), below, true⟩
  | createRecord {memory : Memory} {id : String} {cached : Value} {module : Option Nat}
      {rest : List Statement} {below : List Frame} :
      Step chunk permitted ⟨memory, .call id cached module (.createRecord :: rest) :: below, false⟩
        ⟨memory.create id, .call id cached (some memory.created) rest :: below, false⟩
  | runBody {memory : Memory} {id : String} {cached : Value} {record : Nat}
      {rest : List Statement} {below : List Frame} (known : id ∈ registered chunk) :
      Step chunk permitted
        ⟨memory, .call id cached (some record) (.runBody :: rest) :: below, false⟩
        ⟨memory.note (.started id record),
          .body id record :: .call id cached (some record) rest :: below, false⟩
  | answer {memory : Memory} {id : String} {cached : Value} {record : Nat}
      {rest : List Statement} {below : List Frame} :
      Step chunk permitted ⟨memory, .call id cached (some record) (.answer :: rest) :: below, false⟩
        ⟨memory.note (.answered id record), below, false⟩
  -- what modules do
  | require {state : State} {member : Module} {id : String} (isOpen : state.IsOpen)
      (listed : member ∈ chunk.modules) (started : member.id ∈ state.memory.startedIds)
      (permits : permitted member id) :
      Step chunk permitted state
        ⟨state.memory, .call id .undefined none requireProgram :: state.frames, false⟩
  | finish {memory : Memory} {id : String} {record : Nat} {below : List Frame} :
      Step chunk permitted ⟨memory, .body id record :: below, false⟩ ⟨memory, below, false⟩
  | raise {memory : Memory} {id : String} {record : Nat} {below : List Frame} :
      Step chunk permitted ⟨memory, .body id record :: below, false⟩
        ⟨memory, .body id record :: below, true⟩
  | handle {memory : Memory} {id : String} {record : Nat} {below : List Frame} :
      Step chunk permitted ⟨memory, .body id record :: below, true⟩
        ⟨memory, .body id record :: below, false⟩
  -- an error that is not caught ends what is being executed
  | unwind {memory : Memory} {frame : Frame} {below : List Frame} :
      Step chunk permitted ⟨memory, frame :: below, true⟩ ⟨memory, below, true⟩
  | report {memory : Memory} : Step chunk permitted ⟨memory, [], true⟩ ⟨memory, [], false⟩

/-- The states that a script is in after a number of steps. -/
inductive After (chunk : Chunk) (permitted : Module → String → Prop) : Nat → State → Prop where
  | start : After chunk permitted 0 .start
  | step {count : Nat} {state next : State} (after : After chunk permitted count state)
      (step : Step chunk permitted state next) : After chunk permitted (count + 1) next

/-- The state in which the code of the entry has been started. -/
def State.begun (chunk : Chunk) : State :=
  ⟨(Memory.empty.create chunk.entry.id).note (.started chunk.entry.id 0),
    [.body chunk.entry.id 0, .script (some 0) []], false⟩

theorem After.begun (chunk : Chunk) (permitted : Module → String → Prop) :
    After chunk permitted 3 (.begun chunk) :=
  .step (.step (.step .start .createEntry) .bindExports) .runEntry

theorem State.isOpen_begun (chunk : Chunk) : (State.begun chunk).IsOpen :=
  ⟨rfl, .inr ⟨_, _, _, rfl⟩⟩

end ScriptBundle.Runtime
