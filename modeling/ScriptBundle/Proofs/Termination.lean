import Mathlib.Data.Set.Card
import ScriptBundle.Proofs.DepthFirst
import ScriptBundle.Proofs.Identity

/-!
# The end of building

The builder goes round a loop.  A turn takes the first path that waits off the
list, and either skips it or puts the dependencies of its module before the
others; so the list may grow with every turn and hold one path many times.  The
loop ends all the same: a turn that does not shorten the list gives a status to
one of the finitely many routes to files, and a status is only given once.

Absolute paths have one route to each file, whatever extension or detour they
were found by.  So in a tree that stays the same a builder never holds more
modules than there are files.
-/

namespace ScriptBundle

namespace FileTree

/-- The places of a tree that hold a file. -/
def filePlaces (tree : FileTree) : Set Location :=
  {location | ∃ content, tree.entryAt location = some (.file content)}

theorem finite_filePlaces (tree : FileTree) : tree.filePlaces.Finite := by
  refine (List.finite_toSet tree.files).subset fun location held => ?_
  rcases held with ⟨content, isFile⟩
  exact mem_files_of_entryAt isFile

end FileTree

namespace ModuleBuilder

/-- What a turn of the builder starts from. -/
structure Round where
  pending : List Path
  state : BuildState
  world : World

/-- What the loop of the builder comes to. -/
structure Ending where
  state : BuildState
  result : Except BuildError Unit
  world : World

/-- One turn of the builder: the loop ends, or it goes on to another turn. -/
def turn (builder : ModuleBuilder) (owner : String) (round : Round) : Round ⊕ Ending :=
  match round.pending with
  | [] => .inr ⟨round.state, .ok (), round.world⟩
  | path :: rest =>
    if round.state.hasStatus (builder.idOf path) then
      .inl { round with pending := rest }
    else
      let begun := round.state.setStatus (builder.idOf path) .building
      match builder.make begun.hasStatus owner path round.world with
      | (.ok added, reading) => .inl ⟨added.dependencies ++ rest, begun.finish added, reading⟩
      | (.error cause, final) => .inr ⟨begun.forget (builder.idOf path), .error cause, final⟩

/-- As many turns of the builder as given, unless the loop ends before. -/
def turns (builder : ModuleBuilder) (owner : String) : Nat → Round → Round ⊕ Ending
  | 0, round => .inl round
  | count + 1, round =>
    match builder.turn owner round with
    | .inl next => builder.turns owner count next
    | .inr ending => .inr ending

variable {builder : ModuleBuilder} {owner : String} {state : BuildState} {path : Path}
  {rest : List Path} {world final : World} {ending : Ending}

theorem turn_known (known : state.hasStatus (builder.idOf path) = true) :
    builder.turn owner ⟨path :: rest, state, world⟩ = .inl ⟨rest, state, world⟩ := by
  simp only [turn, known, if_true]

theorem turn_failed {cause : BuildError}
    (unknown : state.hasStatus (builder.idOf path) = false)
    (refused : builder.make (builder.knownWhile state path) owner path world =
      (.error cause, final)) :
    builder.turn owner ⟨path :: rest, state, world⟩ = .inr ⟨state, .error cause, final⟩ := by
  rw [← hasStatus_setStatus_building] at refused
  simp only [turn, unknown, refused, Bool.false_eq_true, if_false,
    BuildState.forget_setStatus unknown]

theorem turn_built {added : Module} {reading : World}
    (unknown : state.hasStatus (builder.idOf path) = false)
    (made : builder.make (builder.knownWhile state path) owner path world =
      (.ok added, reading)) :
    builder.turn owner ⟨path :: rest, state, world⟩ =
      .inl ⟨added.dependencies ++ rest, state.finish added, reading⟩ := by
  have hasId := (made_of_make made).hasId
  rw [← hasStatus_setStatus_building] at made
  simp only [turn, unknown, made, Bool.false_eq_true, if_false,
    BuildState.finish_setStatus unknown _ hasId]

theorem turns_succ_of_turn {round next : Round} {count : Nat}
    (goes : builder.turn owner round = .inl next)
    (later : builder.turns owner count next = .inr ending) :
    builder.turns owner (count + 1) round = .inr ending := by
  rw [turns, goes]
  exact later

/-- The loop ends, and building the paths that wait comes to the same. -/
theorem exists_turns (owner : String) (fuel : Nat) (pending : List Path) (state : BuildState)
    (world : World) (enough : builder.remaining world state < fuel) :
    ∃ count ending, builder.turns owner count ⟨pending, state, world⟩ = .inr ending ∧
      builder.buildPending owner fuel pending state world =
        ((ending.state, ending.result), ending.world) := by
  induction fuel generalizing pending state world with
  | zero => exact absurd enough (Nat.not_lt_zero _)
  | succ fuel rounds =>
      induction pending with
      | nil => exact ⟨1, ⟨state, .ok (), world⟩, rfl, rfl⟩
      | cons path rest induction =>
          cases status : state.hasStatus (builder.idOf path) with
          | true =>
              rcases induction with ⟨count, ending, ended, same⟩
              refine ⟨count + 1, ending, turns_succ_of_turn (turn_known status) ended, ?_⟩
              rw [buildPending_known fuel rest status]
              exact same
          | false =>
              rw [buildPending_unknown fuel rest world status]
              rcases ran : builder.make (builder.knownWhile state path) owner path world with
                ⟨cause | added, reading⟩
              · refine ⟨1, ⟨state, .error cause, reading⟩, ?_, rfl⟩
                rw [turns, turn_failed status ran]
              · have fewer := remaining_finish_lt (made_of_make ran) status
                have less : builder.remaining reading (state.finish added) < fuel := by
                  rw [remaining_congr (make_sameFiles ran)]
                  omega
                rcases rounds (added.dependencies ++ rest) (state.finish added) reading less with
                  ⟨count, ending, ended, same⟩
                exact ⟨count + 1, ending, turns_succ_of_turn (turn_built status ran) ended, same⟩

/-- A module was built from a file of a tree, which it names by an absolute
path. -/
def BuiltFrom (builder : ModuleBuilder) (tree : FileTree) (member : Module) : Prop :=
  member.path.isAbsolute = true ∧ ∃ world : World, world.tree = tree ∧ builder.Built world member

theorem BuiltFrom.place {tree : FileTree} {member : Module}
    (built : builder.BuiltFrom tree member) :
    member.path.place ∈ tree.filePlaces ∧
      member.id = builder.idOf (FileTree.absoluteRoute member.path.place) := by
  rcases built with ⟨absolute, world, rfl, known, made⟩
  rcases made.leadsToFile with ⟨location, leads⟩
  have place := leads.eq_place absolute
  subst place
  refine ⟨leads.isFile, ?_⟩
  rw [made.hasId, ← builder.idOf_normalize, leads.normalize_eq_absoluteRoute absolute]

theorem isAbsolute_of_leads {tree : FileTree} {table : ModuleTable} {start file : Path}
    (built : ∀ member ∈ table.modules, ∃ world : World, world.tree = tree ∧
      builder.Built world member)
    (absolute : start.isAbsolute = true) (leads : table.Leads start file) :
    file.isAbsolute = true := by
  induction leads with
  | refl => exact absolute
  | tail _ finds induction =>
      rcases finds with ⟨member, inside, rfl, dependency⟩
      rcases built member inside with ⟨world, -, known, made⟩
      rcases made.leadsToFile with ⟨location, leads⟩
      exact (made.requiresFile dependency).isAbsolute leads induction

/-- Calls with absolute paths, while a tree stays the same, leave modules that
were built from its files. -/
theorem builtFrom_after {tree : FileTree} {calls : List Call}
    (regular : ∀ call ∈ calls, call.world.tree = tree ∧ call.path.isAbsolute = true) :
    ∀ member ∈ (builder.after calls).modules.modules, builder.BuiltFrom tree member := by
  induction calls using List.reverseRecOn with
  | nil =>
      intro member inside
      cases inside
  | append_singleton calls call induction =>
      have earlier := induction fun other listed => regular other (List.mem_append_left _ listed)
      rcases regular call (by simp) with ⟨unchanged, absolute⟩
      rcases builder.visits_build (builder.after calls) call.owner call.path call.world with
        ⟨later, result, final, visit, called⟩
      have grown := visit.grown (builder.sound_after calls).settled
      rw [after_append_singleton, perform, called]
      have built : ∀ member ∈ later.modules.modules, ∃ world : World, world.tree = tree ∧
          builder.Built world member := by
        intro member inside
        rcases grown.added member inside with before | ⟨-, built, -⟩
        · exact (earlier member before).2
        · exact ⟨call.world, unchanged, built⟩
      intro member inside
      rcases grown.added member inside with before | ⟨-, -, path, single, leads⟩
      · exact earlier member before
      · rw [List.mem_singleton.mp single] at leads
        exact ⟨isAbsolute_of_leads built absolute leads, built member inside⟩

/-- A table of modules that were built from the files of a tree holds no more of
them than the tree has files, since modules with different identifiers were
built from different files. -/
theorem length_le_ncard_filePlaces {tree : FileTree} {table : ModuleTable}
    (built : ∀ member ∈ table.modules, builder.BuiltFrom tree member) :
    table.modules.length ≤ tree.filePlaces.ncard := by
  let places := table.modules.map fun member => member.path.place
  have distinct : places.Nodup := by
    refine List.Nodup.map_on ?_ (List.Nodup.of_map _ table.distinct)
    intro member inside other otherInside same
    apply List.inj_on_of_nodup_map table.distinct inside otherInside
    rw [(built member inside).place.2, (built other otherInside).place.2, same]
  have nested : (places.toFinset : Set Location) ⊆ tree.filePlaces := by
    intro location listed
    rw [List.coe_toFinset] at listed
    rcases List.mem_map.mp listed with ⟨member, inside, rfl⟩
    exact (built member inside).place.1
  calc table.modules.length = places.toFinset.card := by
        rw [List.toFinset_card_of_nodup distinct, List.length_map]
    _ = (places.toFinset : Set Location).ncard := (Set.ncard_coe_finset _).symm
    _ ≤ tree.filePlaces.ncard := Set.ncard_le_ncard nested tree.finite_filePlaces

/-- Whatever a builder was used for before, and whether or not it failed, the
loop of a call ends after finitely many turns, and the call comes to what the
last of them comes to.  If all calls come with absolute paths and a tree that
stays the same, then they leave no more modules than there are files in it. -/
theorem build_terminates (builder : ModuleBuilder) (calls : List Call) :
    (∀ call : Call, ∃ count ending,
        builder.turns call.owner count ⟨[call.path], builder.after calls, call.world⟩ =
            .inr ending ∧
          builder.build (builder.after calls) call.owner call.path call.world =
            ((ending.state, ending.result.map fun _ =>
              ending.state.modules.get? (builder.idOf call.path)), ending.world)) ∧
      ∀ tree : FileTree,
        (∀ call ∈ calls, call.world.tree = tree ∧ call.path.isAbsolute = true) →
          (builder.after calls).modules.modules.length ≤ tree.filePlaces.ncard := by
  constructor
  · intro call
    rcases exists_turns call.owner (moduleLimit call.world.tree) [call.path]
        (builder.after calls) call.world
        (remaining_lt_moduleLimit builder call.world (builder.after calls)) with
      ⟨count, ending, ended, same⟩
    refine ⟨count, ending, ended, ?_⟩
    rw [build_eq_buildPending, same]
  · intro tree regular
    exact length_le_ncard_filePlaces (builtFrom_after regular)

/-- Files that require themselves and each other by several routes, one of which
an extension makes, and a file that nothing requires. -/
def circularWorld : World where
  tree := ⟨[(["work"], .directory),
    (["work", "lib"], .directory),
    (["work", "a.js"], .file
      "require('./a'); require('./lib'); require('./lib/c.js'); require('./b');".toUTF8),
    (["work", "b.js"], .file "require('./lib/../a.js'); require('./a');".toUTF8),
    (["work", "lib", "c.js"], .file "require('../lib/c'); require('../missing');".toUTF8),
    (["work", "alone.js"], .file "1;".toUTF8)]⟩
  workingDirectory := ["work"]
  journal := []

def circularBuilder : ModuleBuilder :=
  ⟨⟨[]⟩, ⟨⟨"/work"⟩, [".js", "/../b.js"]⟩⟩

/-- The first call fails, and the second finds what the first has built. -/
def circularCalls : List Call :=
  [⟨"first", ⟨"/work/a.js"⟩, circularWorld⟩, ⟨"second", ⟨"/work/lib/../b.js"⟩, circularWorld⟩]

theorem build_terminates_circular :
    (∀ call ∈ circularCalls,
        call.world.tree = circularWorld.tree ∧ call.path.isAbsolute = true) ∧
      (circularBuilder.after circularCalls).modules.ids = ["./a.js", "./b.js"] ∧
      (circularBuilder.after circularCalls).modules.modules.length ≤
        circularWorld.tree.filePlaces.ncard := by
  have regular : ∀ call ∈ circularCalls,
      call.world.tree = circularWorld.tree ∧ call.path.isAbsolute = true := by
    intro call listed
    simp only [circularCalls, List.mem_cons, List.not_mem_nil, or_false] at listed
    rcases listed with rfl | rfl <;> exact ⟨rfl, rfl⟩
  exact ⟨regular, by decide +kernel,
    (build_terminates circularBuilder circularCalls).2 circularWorld.tree regular⟩

end ModuleBuilder

end ScriptBundle
