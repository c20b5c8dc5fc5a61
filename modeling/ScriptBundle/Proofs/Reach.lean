import Mathlib.Logic.Relation
import Mathlib.Data.List.Forall2
import ScriptBundle.Proofs.Status

/-!
# Reaching modules

A module requires identifiers, and reaches whatever is found by following
requires any number of times, itself included.  An identifier is reached
whether or not its module is in the table; what is collected from a module
on are those identifiers whose modules are.

What the chunk of an entry is made of is told for any table: nothing is asked of
the owners of its modules or of what they require, so that a module may require
itself, an identifier twice, or one that has no module.  An entry has a chunk if
and only if its module is in the table.
-/

namespace ScriptBundle

namespace ModuleTable

variable {table : ModuleTable} {seen pending : List String} {id first required : String}

/-- The module of an identifier requires another identifier. -/
def Requires (table : ModuleTable) (id required : String) : Prop :=
  ∃ member ∈ table.modules, member.id = id ∧ required ∈ member.requires

/-- An identifier is found from another by following requires. -/
def Reaches (table : ModuleTable) : String → String → Prop :=
  Relation.ReflTransGen table.Requires

theorem Requires.contains (requires : table.Requires id required) : table.contains id = true := by
  rcases requires with ⟨member, inside, rfl, -⟩
  exact contains_id inside

theorem requires_of_get? {member : Module} (found : table.get? id = some member)
    (needed : required ∈ member.requires) : table.Requires id required := by
  rcases get?_eq_some found with ⟨inside, sameId⟩
  exact ⟨member, inside, sameId, needed⟩

theorem subset_reach (table : ModuleTable) (seen pending : List String) :
    seen ⊆ table.reach seen pending := by
  fun_induction reach table seen pending with
  | case1 seen => exact List.Subset.refl _
  | case2 seen id rest found induction => exact induction
  | case3 seen id rest member found known induction => exact induction
  | case4 seen id rest member found fresh induction =>
      exact List.Subset.trans (List.subset_cons_self _ _) induction

/-- What is collected was seen before, or is reached from what is pending. -/
theorem reach_sound (collected : id ∈ table.reach seen pending) :
    id ∈ seen ∨ table.contains id = true ∧ ∃ start ∈ pending, table.Reaches start id := by
  fun_induction reach table seen pending with
  | case1 seen => exact .inl collected
  | case2 seen other rest found induction =>
      rcases induction collected with earlier | ⟨contained, start, waits, reaches⟩
      · exact .inl earlier
      · exact .inr ⟨contained, start, List.mem_cons_of_mem _ waits, reaches⟩
  | case3 seen other rest member found known induction =>
      rcases induction collected with earlier | ⟨contained, start, waits, reaches⟩
      · exact .inl earlier
      · exact .inr ⟨contained, start, List.mem_cons_of_mem _ waits, reaches⟩
  | case4 seen other rest member found fresh induction =>
      rcases get?_eq_some found with ⟨inside, sameId⟩
      rcases induction collected with earlier | ⟨contained, start, waits, reaches⟩
      · rcases List.mem_cons.mp earlier with rfl | before
        · exact .inr ⟨contains_id inside, other, List.mem_cons_self, sameId ▸ .refl⟩
        · exact .inl before
      · refine .inr ⟨contained, ?_⟩
        rcases List.mem_append.mp waits with needed | later
        · exact ⟨other, List.mem_cons_self, .head (requires_of_get? found needed) reaches⟩
        · exact ⟨start, List.mem_cons_of_mem _ later, reaches⟩

/-- What the modules of some identifiers require is among them or pending. -/
def Covers (table : ModuleTable) (seen pending : List String) : Prop :=
  ∀ id ∈ seen, ∀ required, table.Requires id required → table.contains required = true →
    required ∈ seen ∨ required ∈ pending

theorem Covers.skip (covers : table.Covers seen (id :: pending))
    (needless : table.contains id = true → id ∈ seen) : table.Covers seen pending := by
  intro other member required requires contained
  rcases covers other member required requires contained with earlier | waits
  · exact .inl earlier
  · rcases List.mem_cons.mp waits with rfl | later
    · exact .inl (needless contained)
    · exact .inr later

theorem Covers.see {member : Module} (covers : table.Covers seen (id :: pending))
    (found : table.get? id = some member) :
    table.Covers (member.id :: seen) (member.requires ++ pending) := by
  rcases get?_eq_some found with ⟨inside, sameId⟩
  intro other isSeen required requires contained
  rcases List.mem_cons.mp isSeen with rfl | before
  · rcases requires with ⟨twin, twinInside, twinId, needed⟩
    have same : twin = member := List.inj_on_of_nodup_map table.distinct twinInside inside twinId
    exact .inr (List.mem_append_left _ (same ▸ needed))
  · rcases covers other before required requires contained with earlier | waits
    · exact .inl (List.mem_cons_of_mem _ earlier)
    · rcases List.mem_cons.mp waits with rfl | later
      · exact .inl (sameId ▸ List.mem_cons_self)
      · exact .inr (List.mem_append_right _ later)

/-- Everything pending is collected, and with it what is required. -/
theorem reach_complete (covers : table.Covers seen pending) :
    (∀ id ∈ pending, table.contains id = true → id ∈ table.reach seen pending) ∧
      table.Covers (table.reach seen pending) [] := by
  fun_induction reach table seen pending with
  | case1 seen =>
      refine ⟨?_, covers⟩
      intro id waits
      cases waits
  | case2 seen other rest found induction =>
      have absent : table.contains other = false := by simp [contains, found]
      rcases induction (covers.skip (by simp [absent])) with ⟨collected, closed⟩
      refine ⟨?_, closed⟩
      intro id waits contained
      rcases List.mem_cons.mp waits with rfl | later
      · simp [absent] at contained
      · exact collected id later contained
  | case3 seen other rest member found known induction =>
      have inSeen : other ∈ seen := by
        rw [← (get?_eq_some found).2]
        simpa using known
      rcases induction (covers.skip fun _ => inSeen) with ⟨collected, closed⟩
      refine ⟨?_, closed⟩
      intro id waits contained
      rcases List.mem_cons.mp waits with rfl | later
      · exact subset_reach table seen rest inSeen
      · exact collected id later contained
  | case4 seen other rest member found fresh induction =>
      rcases induction (covers.see found) with ⟨collected, closed⟩
      refine ⟨?_, closed⟩
      intro id waits contained
      rcases List.mem_cons.mp waits with rfl | later
      · exact subset_reach table _ _ ((get?_eq_some found).2 ▸ List.mem_cons_self)
      · exact collected id (List.mem_append_right _ later) contained

/-- The identifiers collected from a module on are those that it reaches and
whose modules are in the table. -/
theorem mem_reachableFrom_iff :
    id ∈ table.reachableFrom first ↔ table.contains id = true ∧ table.Reaches first id := by
  rw [reachableFrom]
  constructor
  · intro collected
    rcases reach_sound collected with nothing | ⟨contained, start, single, reaches⟩
    · cases nothing
    · rw [List.mem_singleton.mp single] at reaches
      exact ⟨contained, reaches⟩
  · rintro ⟨contained, reaches⟩
    have nothingSeen : table.Covers [] [first] := fun id member => absurd member List.not_mem_nil
    rcases reach_complete nothingSeen with ⟨collected, closed⟩
    induction reaches with
    | refl => exact collected first List.mem_cons_self contained
    | tail _ requires induction =>
        rcases closed _ (induction requires.contains) _ requires contained with inside | waits
        · exact inside
        · cases waits

end ModuleTable

/-- A chunk is made of the modules of a table that bear the name of an entry or
are reached from its module. -/
structure Chunk.Collects (chunk : Chunk) (table : ModuleTable) (point : EntryPoint) : Prop where
  name : chunk.name = point.name
  entry : table.get? point.id = some chunk.entry
  /-- The modules are in the order of the table. -/
  ordered : chunk.modules.Sublist table.modules
  nodup : (chunk.modules.map Module.id).Nodup
  mem_iff : ∀ member, member ∈ chunk.modules ↔
    member ∈ table.modules ∧ (member.owner = point.name ∨ table.Reaches point.id member.id)

namespace ModuleTable

variable {table : ModuleTable} {point : EntryPoint}

theorem chunkFor?_eq_none (missing : table.contains point.id = false) :
    table.chunkFor? point = none := by
  have absent : table.get? point.id = none := by simpa [contains] using missing
  rw [chunkFor?, absent]
  rfl

theorem chunkFor?_collects (contained : table.contains point.id = true) :
    ∃ chunk, table.chunkFor? point = some chunk ∧ chunk.Collects table point := by
  rcases Option.isSome_iff_exists.mp contained with ⟨first, found⟩
  have firstId := (get?_eq_some found).2
  refine ⟨⟨point.name, first, _⟩, by rw [chunkFor?, found]; rfl, rfl, found,
    List.filter_sublist, table.distinct.sublist (List.filter_sublist.map _), ?_⟩
  intro member
  rw [List.mem_filter, firstId, Bool.or_eq_true, decide_eq_true_eq, List.contains_iff_mem,
    mem_reachableFrom_iff]
  -- what is collected has its module in the table, and this one is there
  exact and_congr_right fun inside => or_congr_right (and_iff_right (contains_id inside))

/-- The chunks of a list of entries are those of the entries whose modules are in
the table, in the order of the entries, and each is made of the modules that bear
the name of its entry or are reached from its module. -/
theorem chunksOf_forall₂_collects (table : ModuleTable) (points : List EntryPoint) :
    List.Forall₂ (fun point chunk => Chunk.Collects chunk table point)
      (points.filter fun point => table.contains point.id) (table.chunksOf points) := by
  induction points with
  | nil => exact .nil
  | cons point rest induction =>
      cases contained : table.contains point.id with
      | true =>
          rcases chunkFor?_collects contained with ⟨chunk, assembled, collects⟩
          rw [List.filter_cons_of_pos (by simpa using contained), chunksOf,
            List.filterMap_cons_some assembled]
          exact .cons collects induction
      | false =>
          rw [List.filter_cons_of_neg (by simp [contained]), chunksOf,
            List.filterMap_cons_none (chunkFor?_eq_none contained)]
          exact induction

end ModuleTable

end ScriptBundle
