import ScriptBundle.Proofs.Phase
import ScriptBundle.Proofs.SelfContained

/-!
# Owners of modules

The modules of the entries are built one entry after the other, and a module
keeps the name of the entry it was built for.  When the modules of some entries
are built, they are exactly what these entries reach: whatever a module
requires is among them.  So whichever entries come later, a module that is
built for one of them is reached by none before it, and stands behind all that
those reach.
-/

namespace ScriptBundle

/-- Nothing more is reached from a module, once everything required is there,
when the table grows. -/
theorem ModuleTable.Reaches.stays {earlier later : ModuleTable} {first id : String}
    (reaches : later.Reaches first id) (more : earlier.modules ⊆ later.modules)
    (satisfied : ∀ member ∈ earlier.modules, ModuleBuilder.Satisfied earlier member)
    (contained : earlier.contains first = true) : earlier.contains id = true := by
  induction reaches with
  | refl => exact contained
  | tail _ requires induction =>
      rcases contains_iff.mp induction with ⟨member, inside, sameId⟩
      rcases requires with ⟨twin, twinInside, twinId, needed⟩
      have same : twin = member :=
        List.inj_on_of_nodup_map later.distinct twinInside (more inside)
          (twinId.trans sameId.symm)
      exact satisfied member inside _ (same ▸ needed)

namespace Bundler

variable {bundler : Bundler} {world start final : World} {done more : List (String × String)}
  {progress next : BuildState × List EntryPoint}

/-- Building the modules of more entries only adds modules, and they bear the
names of these entries. -/
theorem Progress.added (before : bundler.Progress start done progress)
    (same : world.SameFiles start)
    (succeeded : more.foldlM bundler.buildEntry progress world = (.ok next, final)) :
    ∃ added, next.1.modules.modules = progress.1.modules.modules ++ added ∧
      ∀ member ∈ added, member.owner ∈ more.map Prod.fst := by
  induction more generalizing done progress world with
  | nil =>
      cases succeeded
      refine ⟨[], (List.append_nil _).symm, ?_⟩
      intro member listed
      cases listed
  | cons entry rest induction =>
      rw [List.foldlM_cons] at succeeded
      rcases Action.bind_ok succeeded with ⟨reached, middle, first, later⟩
      have grown := (buildEntry_ok before.settled first).1.grown before.settled
      rcases before.buildEntry same first with ⟨progressed, middleSame⟩
      rcases induction progressed middleSame later with ⟨added, whole, owned⟩
      rcases grown.kept with ⟨own, extended⟩
      refine ⟨own ++ added, by rw [whole, ← extended, List.append_assoc], ?_⟩
      intro member listed
      rw [List.map_cons]
      rcases List.mem_append.mp listed with mine | others
      · have inside : member ∈ reached.1.modules.modules := by
          rw [← extended]
          exact List.mem_append_right _ mine
        rcases grown.added member inside with earlier | ⟨isOwned, -⟩
        · -- no module is there twice
          have distinct := reached.1.modules.distinct
          rw [← extended, List.map_append] at distinct
          exact absurd (List.mem_map_of_mem earlier)
            fun twice => List.disjoint_of_nodup_append distinct twice (List.mem_map_of_mem mine)
        · rw [isOwned]
          exact List.mem_cons_self
      · exact List.mem_cons_of_mem _ (owned member others)

/-- The modules of a table, cut where those of some entries end. -/
structure Stage (bundler : Bundler) (table : ModuleTable) (before after : List (String × String))
    (front back : List Module) : Prop where
  whole : table.modules = front ++ back
  /-- What the entries before the cut reach is before the cut. -/
  reached : ∀ entry ∈ before, ∀ member ∈ table.modules,
    table.Reaches (bundler.pointOf entry).id member.id → member ∈ front
  ownedBefore : ∀ member ∈ front, member.owner ∈ before.map Prod.fst
  ownedAfter : ∀ member ∈ back, member.owner ∈ after.map Prod.fst

theorem exists_stage {before after : List (String × String)}
    (succeeded : (before ++ after).foldlM bundler.buildEntry (.start, []) world =
      (.ok next, final)) :
    ∃ front back, bundler.Stage next.1.modules before after front back := by
  rw [List.foldlM_append] at succeeded
  rcases Action.bind_ok succeeded with ⟨reached, middle, first, later⟩
  rcases (progress_start bundler world).foldlM (.refl world) first with ⟨progress, same⟩
  rw [List.nil_append] at progress
  rcases progress.added same later with ⟨added, whole, owned⟩
  have more : reached.1.modules.modules ⊆ next.1.modules.modules := by
    rw [whole]
    exact List.subset_append_left _ _
  refine ⟨_, added, whole, ?_, ?_, owned⟩
  · intro entry listed member inside reaches
    have contained := reaches.stays more progress.satisfied (progress.contained entry listed)
    rcases ModuleTable.contains_iff.mp contained with ⟨twin, twinInside, sameId⟩
    have sameMember : twin = member :=
      List.inj_on_of_nodup_map next.1.modules.distinct (more twinInside) inside sameId
    exact sameMember ▸ twinInside
  · intro member inside
    rcases progress.found member inside with ⟨entry, listed, isOwned, -⟩
    rw [isOwned]
    exact List.mem_map_of_mem listed

/-- Who owns the modules of a table: the first entry, in the order of the
entries, that reaches them. -/
structure OwnedByFirst (bundler : Bundler) (table : ModuleTable) : Prop where
  /-- The modules are those that the entries reach. -/
  contains_iff : ∀ id, table.contains id = true ↔
    ∃ entry ∈ bundler.config.entries.toList, table.Reaches (bundler.pointOf entry).id id
  owner : ∀ member ∈ table.modules, ∃ before entry after,
    bundler.config.entries.toList = before ++ entry :: after ∧
      member.owner = entry.1 ∧
      table.Reaches (bundler.pointOf entry).id member.id ∧
      ∀ other ∈ before, ¬ table.Reaches (bundler.pointOf other).id member.id
  /-- What an entry reaches stands before what a later entry owns. -/
  ordered : ∀ before entry after, bundler.config.entries.toList = before ++ entry :: after →
    ∀ earlier ∈ table.modules, table.Reaches (bundler.pointOf entry).id earlier.id →
      ∀ later ∈ table.modules, later.owner ∈ after.map Prod.fst →
        [earlier, later].Sublist table.modules

/-- A name that one entry has is the name of no entry on the other side of a
cut. -/
theorem name_not_mem_both (bundler : Bundler) {before after : List (String × String)}
    (cut : bundler.config.entries.toList = before ++ after) {name : String}
    (here : name ∈ before.map Prod.fst) : name ∉ after.map Prod.fst := by
  have distinct := Entries.nodup_names bundler.config.entries
  rw [cut, List.map_append] at distinct
  exact List.disjoint_of_nodup_append distinct here

theorem ownedByFirst_of_stages {table : ModuleTable} {state : BuildState}
    {points : List EntryPoint} (isTable : state.modules = table)
    (progress : bundler.Progress world bundler.config.entries.toList (state, points))
    (stages : ∀ before after, bundler.config.entries.toList = before ++ after →
      ∃ front back, bundler.Stage table before after front back) :
    bundler.OwnedByFirst table := by
  subst isTable
  have reaches_owner : ∀ member ∈ state.modules.modules,
      ∃ entry ∈ bundler.config.entries.toList, member.owner = entry.1 ∧
        state.modules.Reaches (bundler.pointOf entry).id member.id := by
    intro member inside
    rcases progress.found member inside with ⟨entry, listed, owned, -⟩
    exact ⟨entry, listed, owned,
      progress.reaches (Entries.nodup_names _) listed inside owned⟩
  constructor
  · intro id
    constructor
    · intro contained
      rcases ModuleTable.contains_iff.mp contained with ⟨member, inside, rfl⟩
      rcases reaches_owner member inside with ⟨entry, listed, -, reaches⟩
      exact ⟨entry, listed, reaches⟩
    · rintro ⟨entry, listed, reaches⟩
      exact reaches.stays (List.Subset.refl _) progress.satisfied
        (progress.contained entry listed)
  · intro member inside
    rcases reaches_owner member inside with ⟨entry, listed, owned, reaches⟩
    rcases List.append_of_mem listed with ⟨before, after, cut⟩
    refine ⟨before, entry, after, cut, owned, reaches, ?_⟩
    intro other earlier reachesToo
    rcases stages before (entry :: after) cut with ⟨front, back, stage⟩
    have inFront := stage.reached other earlier member inside reachesToo
    apply bundler.name_not_mem_both cut (stage.ownedBefore member inFront)
    rw [owned]
    exact List.mem_cons_self
  · intro before entry after cut earlier inside reaches later laterInside owned
    have cutAfter : bundler.config.entries.toList = (before ++ [entry]) ++ after := by
      rw [cut, List.append_assoc, List.singleton_append]
    rcases stages (before ++ [entry]) after cutAfter with ⟨front, back, stage⟩
    have inFront : earlier ∈ front :=
      stage.reached entry (List.mem_append_right _ List.mem_cons_self) earlier inside reaches
    have inBack : later ∈ back := by
      rw [stage.whole] at laterInside
      rcases List.mem_append.mp laterInside with front | back
      · exact absurd owned (bundler.name_not_mem_both cutAfter (stage.ownedBefore later front))
      · exact back
    rw [stage.whole]
    exact (List.singleton_sublist.mpr inFront).append (List.singleton_sublist.mpr inBack)

/-- A run that succeeds has built exactly the modules that its entries reach,
and each is owned by the first entry that reaches it. -/
theorem run_ownedByFirst {result : BuildResult}
    (succeeded : bundler.run world = (.ok result, final)) :
    bundler.OwnedByFirst result.modules := by
  rcases result with ⟨_, _, table⟩
  rcases run_eq_ok succeeded with ⟨rendered, prepared, -⟩
  rcases Action.bind_ok prepared with ⟨⟨modules, points⟩, made, gathered, rest⟩
  rcases Action.bind_ok rest with ⟨assets, shown, -, asked⟩
  rcases Action.bind_ok asked with ⟨_, agreed, -, returned⟩
  cases returned
  rcases Action.bind_ok gathered with ⟨_, begun, -, guarded⟩
  rcases Action.bind_ok guarded with ⟨_, tapped, -, building⟩
  rcases Action.bind_ok building with ⟨⟨state, found⟩, middle, folded, told⟩
  cases told
  have progress := ((progress_start bundler tapped).foldlM (.refl tapped) folded).1
  rw [List.nil_append] at progress
  apply ownedByFirst_of_stages rfl progress
  intro before after cut
  rw [cut] at folded
  exact exists_stage folded

/-- The first entry owns the module that both entries reach, although the
second requires it directly. -/
theorem run_ownedByFirst_shared :
    ∃ result final, sharedBundler.run sharedWorld = (.ok result, final) ∧
      (result.modules.modules.map fun member => (member.id, member.owner)) =
        [("./a.js", "first"), ("./c.js", "first"), ("./b.js", "second")] ∧
      sharedBundler.OwnedByFirst result.modules := by
  have evaluated : ((sharedBundler.run sharedWorld).1.map fun result =>
      result.modules.modules.map fun member => (member.id, member.owner)).toOption =
        some [("./a.js", "first"), ("./c.js", "first"), ("./b.js", "second")] := by
    decide +kernel
  rcases ran : sharedBundler.run sharedWorld with ⟨cause | result, final⟩
  · rw [ran] at evaluated
    cases evaluated
  · rw [ran] at evaluated
    exact ⟨result, final, rfl, Option.some.inj evaluated, run_ownedByFirst ran⟩

end Bundler

end ScriptBundle
