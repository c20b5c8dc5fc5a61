import ScriptBundle.Loader
import ScriptBundle.Linking

/-!
# Building modules

A module is what a build makes of one source file.  A table holds modules in
the order in which they were built, one for each identifier.

Modules are built from an entry on.  Paths wait in a list; the first whose
module has no status is read, transformed and linked, and the files that
its module found take its place.  A module has a status from the moment its
building starts, so that it is built once however often it is required.

A failure ends the building.  The module that failed loses its status; those
built before it stay, and building can go on with another entry.
-/

namespace ScriptBundle

/-- What a build makes of one source file. -/
structure Module where
  id : String
  /-- The name of the entry that found this module first. -/
  owner : String
  path : Path
  /-- The text that is embedded in bundles. -/
  source : String
  /-- The files that were first found in this module, in its order. -/
  dependencies : List Path
  /-- The identifiers of all modules that this one requires, in its order. -/
  requires : List String
deriving DecidableEq, Repr, Inhabited

/-- Modules in the order in which they were built.  No identifier is there
twice. -/
structure ModuleTable where
  modules : List Module
  distinct : (modules.map Module.id).Nodup
deriving DecidableEq, Repr

namespace ModuleTable

def empty : ModuleTable :=
  ⟨[], List.nodup_nil⟩

/-- The module with the given identifier. -/
def get? (table : ModuleTable) (id : String) : Option Module :=
  table.modules.find? fun member => member.id = id

/-- Whether there is a module with the given identifier. -/
def contains (table : ModuleTable) (id : String) : Bool :=
  (table.get? id).isSome

/-- Put a module in the place of the one with its identifier, or at the end. -/
def insert (table : ModuleTable) (added : Module) : ModuleTable :=
  if known : table.contains added.id then
    ⟨table.modules.map fun member => if member.id = added.id then added else member, by
      have sameIds : (table.modules.map fun member =>
          if member.id = added.id then added else member).map Module.id =
          table.modules.map Module.id := by
        rw [List.map_map]
        refine List.map_congr_left fun member _ => ?_
        by_cases same : member.id = added.id <;> simp [same]
      rw [sameIds]
      exact table.distinct⟩
  else
    ⟨table.modules ++ [added], by
      have fresh : added.id ∉ table.modules.map Module.id := by
        simpa [contains, get?] using known
      rw [List.map_append, List.nodup_append]
      refine ⟨table.distinct, by simp, fun id member last single => ?_⟩
      have lastId : last = added.id := by simpa using single
      rintro rfl
      exact fresh (lastId ▸ member)⟩

/-- The identifiers of all modules. -/
def ids (table : ModuleTable) : List String :=
  table.modules.map Module.id

end ModuleTable

/-- How far the building of a module is. -/
inductive ModuleStatus where
  | building
  | built
deriving DecidableEq, Repr

/-- What has been built so far. -/
structure BuildState where
  statuses : List (String × ModuleStatus)
  modules : ModuleTable
deriving DecidableEq, Repr

namespace BuildState

/-- The state before anything is built. -/
def start : BuildState :=
  ⟨[], .empty⟩

def status? (state : BuildState) (id : String) : Option ModuleStatus :=
  state.statuses.lookup id

def hasStatus (state : BuildState) (id : String) : Bool :=
  (state.status? id).isSome

/-- The state without a status for an identifier. -/
def forget (state : BuildState) (id : String) : BuildState :=
  { state with statuses := state.statuses.filter fun entry => entry.1 ≠ id }

def setStatus (state : BuildState) (id : String) (status : ModuleStatus) : BuildState :=
  { state.forget id with statuses := (id, status) :: (state.forget id).statuses }

def finish (state : BuildState) (added : Module) : BuildState :=
  { state.setStatus added.id .built with modules := state.modules.insert added }

end BuildState

/-- What builds modules: the loaders for their files, and what leads from their
specifiers to further files. -/
structure ModuleBuilder where
  pipeline : Pipeline
  linker : Linker

namespace ModuleBuilder

/-- The identifier of the module in a file. -/
def idOf (builder : ModuleBuilder) (path : Path) : String :=
  Path.identifier builder.linker.root path

/-- Build the module in a file.  The identifiers in `known` belong to modules
that are built or being built. -/
def make (builder : ModuleBuilder) (known : String → Bool) (owner : String) (path : Path) :
    Build Module := do
  Build.record (.building (builder.idOf path) owner)
  let raw ← Build.readFile path
  let transformed ← builder.pipeline.apply path raw
  let linked ← builder.linker.link known path transformed
  pure {
    id := builder.idOf path
    owner := owner
    path := path
    source := linked.code
    dependencies := linked.references.dependencies
    requires := linked.references.requires }

/-- The paths that wait, from the first on whose module has no status. -/
def dropKnown (builder : ModuleBuilder) (state : BuildState) (pending : List Path) : List Path :=
  pending.dropWhile fun path => state.hasStatus (builder.idOf path)

/-- Build the modules of the paths that wait, and of all files found on the
way, where at most `fuel` modules are left to build. -/
def buildPending (builder : ModuleBuilder) (owner : String) :
    (fuel : Nat) → List Path → BuildState → StateM World (BuildState × Except BuildError Unit)
  | 0, _, state => pure (state, .ok ())
  | fuel + 1, pending, state =>
    match builder.dropKnown state pending with
    | [] => pure (state, .ok ())
    | path :: rest => do
      let id := builder.idOf path
      let begun := state.setStatus id .building
      match ← (builder.make begun.hasStatus owner path).run with
      | .ok added =>
        buildPending builder owner fuel (added.dependencies ++ rest) (begun.finish added)
      | .error error => pure (begun.forget id, .error error)

/-- A bound on the number of modules that can be built in a tree.  The path of
a module is the entry's, or a normalized path to a file, which is told by its
file and by the number of steps it goes up. -/
def moduleLimit (tree : FileTree) : Nat :=
  tree.files.length * (FileTree.pathLimit + 2) + 2

/-- Build the module of an entry and every module it requires, directly or
not, that was not built before.  The result is the module of the entry as it
is found in the table afterwards. -/
def build (builder : ModuleBuilder) (state : BuildState) (owner : String) (path : Path) :
    StateM World (BuildState × Except BuildError (Option Module)) := do
  let world ← get
  let (after, outcome) ← builder.buildPending owner (moduleLimit world.tree) [path] state
  pure (after, outcome.map fun _ => after.modules.get? (builder.idOf path))

end ModuleBuilder

end ScriptBundle
