import Mathlib.Data.List.Nodup
import ScriptBundle.Chunk

/-!
# Tables and statuses

The laws of the state of a build.  A module that is new to a table is put at
its end; a status is told by its identifier.  Between two modules a state is
*settled*: the identifiers with a status are those of the modules in the table.
-/

namespace ScriptBundle

namespace ModuleTable

variable {table : ModuleTable} {added member : Module} {id : String}

theorem contains_iff :
    table.contains id = true ↔ ∃ member ∈ table.modules, member.id = id := by
  simp [contains, get?]

/-- No two modules of a table have one identifier, so a module is found by its own. -/
theorem get?_id (inside : member ∈ table.modules) : table.get? member.id = some member := by
  cases found : table.get? member.id with
  | none =>
      have absent := List.find?_eq_none.mp found member inside
      simp at absent
  | some other =>
      rcases get?_eq_some found with ⟨otherInside, sameId⟩
      rw [List.inj_on_of_nodup_map table.distinct otherInside inside sameId]

theorem contains_id (inside : member ∈ table.modules) : table.contains member.id = true :=
  contains_iff.mpr ⟨member, inside, rfl⟩

/-- A module that is new to a table comes last in it. -/
theorem insert_modules (fresh : table.contains added.id = false) :
    (table.insert added).modules = table.modules ++ [added] := by
  rw [insert, dif_neg (by simp [fresh])]

theorem contains_insert (fresh : table.contains added.id = false) (id : String) :
    (table.insert added).contains id = (decide (id = added.id) || table.contains id) := by
  rw [Bool.eq_iff_iff, Bool.or_eq_true, contains_iff, contains_iff, insert_modules fresh]
  simp [or_comm, or_and_right, exists_or, eq_comm]

end ModuleTable

namespace BuildState

variable {state : BuildState} {id : String}

theorem lookup_cons_eq (key other : String) (status : ModuleStatus)
    (rest : List (String × ModuleStatus)) :
    ((key, status) :: rest).lookup other =
      if other = key then some status else rest.lookup other := by
  rw [List.lookup_cons]
  by_cases here : other = key
  · simp [here]
  · simp [here, beq_eq_false_iff_ne.mpr here]

/-- An identifier that is forgotten has no status, and the others keep theirs. -/
theorem status?_forget (state : BuildState) (id other : String) :
    (state.forget id).status? other = if other = id then none else state.status? other := by
  rw [status?, status?, forget]
  induction state.statuses with
  | nil => simp
  | cons entry rest induction =>
      rcases entry with ⟨key, status⟩
      dsimp only at induction ⊢
      by_cases removed : key = id
      · subst removed
        rw [List.filter_cons_of_neg (by simp), induction, lookup_cons_eq]
        by_cases here : other = key <;> simp [here]
      · rw [List.filter_cons_of_pos (by simp [removed]), lookup_cons_eq, lookup_cons_eq, induction]
        by_cases here : other = key
        · subst here
          simp [removed]
        · simp [here]

/-- A status that is set is that of its identifier only. -/
theorem status?_setStatus (state : BuildState) (id other : String) (status : ModuleStatus) :
    (state.setStatus id status).status? other =
      if other = id then some status else state.status? other := by
  have forgotten := status?_forget state id other
  rw [setStatus, status?]
  dsimp only
  rw [lookup_cons_eq]
  by_cases here : other = id
  · simp [here]
  · rw [if_neg here] at forgotten
    rw [if_neg here, if_neg here]
    exact forgotten

theorem hasStatus_setStatus (state : BuildState) (id other : String) (status : ModuleStatus) :
    (state.setStatus id status).hasStatus other =
      (decide (other = id) || state.hasStatus other) := by
  rw [hasStatus, status?_setStatus, hasStatus]
  by_cases here : other = id <;> simp [here]

/-- There is nothing to forget of an identifier without a status. -/
theorem forget_eq_self (unknown : state.hasStatus id = false) : state.forget id = state := by
  have absent : ∀ entry ∈ state.statuses, entry.1 ≠ id := by
    rw [hasStatus, status?, Option.isSome_eq_false_iff, Option.isNone_iff_eq_none,
      List.lookup_eq_none_iff] at unknown
    intro entry member same
    exact absurd (unknown entry member) (by simp [same])
  rw [forget, List.filter_eq_self.mpr (by simpa using absent)]

/-- To forget an identifier that got its first status is to undo that. -/
theorem forget_setStatus (unknown : state.hasStatus id = false) (status : ModuleStatus) :
    (state.setStatus id status).forget id = state := by
  have same : (state.setStatus id status).forget id = (state.forget id).forget id := by
    simp [forget, setStatus]
  rw [same, forget_eq_self unknown, forget_eq_self unknown]

/-- The status while a module was being built leaves no trace. -/
theorem finish_setStatus (unknown : state.hasStatus id = false) (status : ModuleStatus)
    {added : Module} (hasId : added.id = id) :
    (state.setStatus id status).finish added = state.finish added := by
  subst hasId
  have forgotten := forget_setStatus unknown status
  simp only [finish, setStatus, forget_eq_self unknown] at forgotten ⊢
  rw [forgotten]

/-- A module that is finished has a status. -/
theorem hasStatus_finish (state : BuildState) (added : Module) (id : String) :
    (state.finish added).hasStatus id = (decide (id = added.id) || state.hasStatus id) :=
  hasStatus_setStatus state added.id id .built

/-- A state between the building of two modules. -/
structure Settled (state : BuildState) : Prop where
  allBuilt : ∀ id status, state.status? id = some status → status = .built
  hasStatus_eq : ∀ id, state.hasStatus id = state.modules.contains id

theorem settled_start : Settled start := by
  constructor
  · intro id status given
    cases given
  · intro id
    rfl

namespace Settled

/-- A module without a status is not in the table yet. -/
theorem fresh {added : Module} (settled : Settled state)
    (unknown : state.hasStatus added.id = false) : state.modules.contains added.id = false :=
  (settled.hasStatus_eq _).symm.trans unknown

theorem finish_modules {added : Module} (settled : Settled state)
    (unknown : state.hasStatus added.id = false) :
    (state.finish added).modules.modules = state.modules.modules ++ [added] :=
  ModuleTable.insert_modules (settled.fresh unknown)

/-- A build that was settled is settled once a module is finished. -/
theorem finish {added : Module} (settled : Settled state)
    (unknown : state.hasStatus added.id = false) : Settled (state.finish added) := by
  constructor
  · intro id status given
    have told : (state.finish added).status? id =
        if id = added.id then some .built else state.status? id :=
      status?_setStatus state added.id id .built
    rw [told] at given
    by_cases here : id = added.id
    · rw [if_pos here] at given
      exact (Option.some.inj given).symm
    · rw [if_neg here] at given
      exact settled.allBuilt id status given
  · intro id
    rw [hasStatus_finish, settled.hasStatus_eq]
    exact (ModuleTable.contains_insert (settled.fresh unknown) id).symm

end Settled

end BuildState

end ScriptBundle
