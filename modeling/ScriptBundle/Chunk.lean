import ScriptBundle.ModuleBuilder
import ScriptBundle.Text

/-!
# Chunks and bundles

A chunk is what one entry's bundle is made of: the modules the entry reaches
through requires, and those that were built for it.  A module that several
entries reach is in the chunk of each.

The text of a chunk is a script that runs by itself.  It holds a registry of
functions, one for each module, a cache of the modules that were started, and
a function that starts a module the first time it is required.  The module of
the entry is put into the cache and run directly.
-/

namespace ScriptBundle

/-- The name of an entry and the identifier of its module. -/
structure EntryPoint where
  name : String
  id : String
deriving DecidableEq, Repr

/-- The modules of one entry's bundle, in build order. -/
structure Chunk where
  name : String
  /-- The module of the entry. -/
  entry : Module
  modules : List Module
deriving DecidableEq, Repr

namespace ModuleTable

/-- The modules of a table whose identifiers are not yet in `seen`. -/
def unseen (table : ModuleTable) (seen : List String) : List Module :=
  table.modules.filter fun member => !seen.contains member.id

/-- The module found by an identifier is one of the table and has it. -/
theorem get?_eq_some {table : ModuleTable} {id : String} {member : Module}
    (found : table.get? id = some member) :
    member ∈ table.modules ∧ member.id = id := by
  refine ⟨List.mem_of_find?_eq_some found, ?_⟩
  simpa using List.find?_some found

/-- Fewer modules are unseen once one of them is seen. -/
theorem length_unseen_cons_lt {table : ModuleTable} {seen : List String} {member : Module}
    (known : member ∈ table.modules) (fresh : seen.contains member.id = false) :
    (table.unseen (member.id :: seen)).length < (table.unseen seen).length := by
  have nested : table.unseen (member.id :: seen) =
      (table.unseen seen).filter fun other => other.id ≠ member.id := by
    simp only [unseen, List.filter_filter]
    refine List.filter_congr fun other _ => ?_
    by_cases same : other.id = member.id <;> simp [same]
  rw [nested]
  have listed : member ∈ table.unseen seen := by
    simp only [unseen, List.mem_filter, known, fresh, true_and, Bool.not_false]
  exact List.length_filter_lt_length_iff_exists.mpr ⟨member, listed, by simp⟩

/-- The identifiers in `seen` and all that are reached from those that are
pending, each module being followed once. -/
def reach (table : ModuleTable) (seen : List String) (pending : List String) : List String :=
  match pending with
  | [] => seen
  | id :: rest =>
    match _found : table.get? id with
    | none => table.reach seen rest
    | some member =>
      if _fresh : seen.contains member.id then
        table.reach seen rest
      else
        table.reach (member.id :: seen) (member.requires ++ rest)
termination_by ((table.unseen seen).length, pending.length)
decreasing_by
  · exact Prod.Lex.right _ (Nat.lt_succ_self _)
  · exact Prod.Lex.right _ (Nat.lt_succ_self _)
  · exact Prod.Lex.left _ _
      (length_unseen_cons_lt (get?_eq_some _found).1 (Bool.eq_false_iff.mpr _fresh))

/-- The identifiers reached from a module by following requires any number of
times, its own included. -/
def reachableFrom (table : ModuleTable) (id : String) : List String :=
  table.reach [] [id]

def chunkFor? (table : ModuleTable) (entry : EntryPoint) : Option Chunk := do
  let first ← table.get? entry.id
  let reachable := table.reachableFrom first.id
  let members := table.modules.filter fun member =>
    member.owner = entry.name || reachable.contains member.id
  pure ⟨entry.name, first, members⟩

/-- The chunks of the entries whose modules were built, in the order of the
entries. -/
def chunksOf (table : ModuleTable) (entries : List EntryPoint) : List Chunk :=
  entries.filterMap table.chunkFor?

end ModuleTable

end ScriptBundle

namespace ScriptBundle.Chunk

/-- The function of a module in the registry, after its identifier. -/
def registryItem (member : Module) : String :=
  "    " ++ Literal.quote member.id ++ ": (module, exports, require) => \x7b\n" ++
    Text.trimEnd member.source ++ "\n    \x7d"

/-- The part of a bundle between the registry and the start of the entry. -/
def requireFunction : List String :=
  ["  \x7d;",
    "  var cache = \x7b\x7d;",
    "  function require(moduleId) \x7b",
    "    var cachedModule = cache[moduleId];",
    "    if (cachedModule !== undefined) \x7b",
    "      return cachedModule.exports;",
    "    \x7d",
    "    if (!Object.prototype.hasOwnProperty.call(modules, moduleId)) \x7b",
    "      throw new Error(\"Cannot find module '\" + moduleId + \"'\");",
    "    \x7d",
    "    var module = (cache[moduleId] = \x7b",
    "      exports: \x7b\x7d,",
    "    \x7d);",
    "    modules[moduleId](module, module.exports, require);",
    "    return module.exports;",
    "  \x7d"]

def entryStart (entry : Module) : List String :=
  ["  var module = (cache[" ++ Literal.quote entry.id ++ "] = \x7b",
    "    exports: \x7b\x7d,",
    "  \x7d);",
    "  var exports = module.exports;",
    "  (() => \x7b",
    Text.trimEnd entry.source,
    "  \x7d)();",
    "\x7d)();"]

/-- The lines of a bundle; sources and the registry may hold several. -/
def bundleLines (chunk : Chunk) : List String :=
  ["(() => \x7b",
    "  var modules = \x7b",
    ",\n".intercalate (chunk.modules.map registryItem)] ++
    requireFunction ++ entryStart chunk.entry

def bundle (chunk : Chunk) : String :=
  "\n".intercalate chunk.bundleLines ++ "\n"

end ScriptBundle.Chunk
