import ScriptBundle.Proofs.Independence

/-!
# Where modules are found

A module lists the files that were first found in it.  What is known at that
moment are the modules in the table and the one that is being made: a file that
waits, because a module that was built earlier lists it too, is not known yet.
Still the table tells later which required identifiers were known, for modules
are put at its end in the order in which they are made.  So a module lists a
file for exactly those identifiers that it requires whose modules come behind
it.  And whatever is built was listed before, unless a call named it.
-/

namespace ScriptBundle.ModuleBuilder

variable {builder : ModuleBuilder} {owner : String} {pending left right : List Path}
  {state after : BuildState} {world final : World} {path : Path} {calls : List Call}
  {first second third before front behind : List Module} {member added : Module}
  {known : String → Bool} {result : Except BuildError Unit}

/-- Whether some modules have an identifier among theirs. -/
def knownAmong (modules : List Module) (id : String) : Bool :=
  decide (id ∈ modules.map Module.id)

/-- A module was made when those before it were in the table.  Its path was
given, or a module that was added since lists it. -/
structure Entered (builder : ModuleBuilder) (owner : String) (world : World)
    (pending : List Path) (before front : List Module) (member : Module) : Prop where
  made : builder.Made world (knownAmong (before ++ front ++ [member])) owner member.path member
  listed : member.path ∈ pending ∨
    ∃ earlier ∈ front, earlier.owner = owner ∧ member.path ∈ earlier.dependencies

/-- A table grew by modules that entered one after the other. -/
def InTurn (builder : ModuleBuilder) (owner : String) (world : World) (pending : List Path)
    (before after : List Module) : Prop :=
  ∃ added, after = before ++ added ∧ ∀ front member behind, added = front ++ member :: behind →
    builder.Entered owner world pending before front member

/-- What stands somewhere in two lists stands in the first or in the second. -/
theorem cut_append (cut : first ++ second = front ++ member :: behind) :
    (∃ rest, first = front ++ member :: rest) ∨
      ∃ rest, front = first ++ rest ∧ second = rest ++ member :: behind := by
  rcases List.append_eq_append_iff.mp cut with ⟨rest, whole, further⟩ | ⟨rest, whole, further⟩
  · exact .inr ⟨rest, whole, further⟩
  · cases rest with
    | nil => exact .inr ⟨[], by simpa using whole.symm, further.symm⟩
    | cons other others =>
        rcases List.cons.inj further with ⟨rfl, -⟩
        exact .inl ⟨others, whole⟩

theorem Entered.weaken (entered : builder.Entered owner world left before front member)
    (more : left ⊆ right) : builder.Entered owner world right before front member :=
  ⟨entered.made, entered.listed.imp_left fun given => more given⟩

theorem Entered.congr {other : World}
    (entered : builder.Entered owner world pending before front member)
    (same : world.SameFiles other) : builder.Entered owner other pending before front member :=
  ⟨entered.made.congr same, entered.listed⟩

/-- A module that entered after some others entered after the first of them. -/
theorem Entered.earlier {middle : List Module}
    (entered : builder.Entered owner world pending (before ++ middle) front member) :
    builder.Entered owner world pending before (middle ++ front) member := by
  refine ⟨?_, ?_⟩
  · rw [← List.append_assoc before]
    exact entered.made
  · rcases entered.listed with given | ⟨earlier, inFront, listed⟩
    · exact .inl given
    · exact .inr ⟨earlier, List.mem_append_right _ inFront, listed⟩

namespace InTurn

theorem refl : builder.InTurn owner world pending before before := by
  refine ⟨[], (List.append_nil _).symm, ?_⟩
  intro front member behind cut
  simp at cut

theorem weaken (inTurn : builder.InTurn owner world left first second) (more : left ⊆ right) :
    builder.InTurn owner world right first second := by
  rcases inTurn with ⟨added, grown, entered⟩
  exact ⟨added, grown, fun front member behind cut => (entered front member behind cut).weaken more⟩

theorem congr {other : World} (inTurn : builder.InTurn owner world pending first second)
    (same : world.SameFiles other) : builder.InTurn owner other pending first second := by
  rcases inTurn with ⟨added, grown, entered⟩
  exact ⟨added, grown, fun front member behind cut => (entered front member behind cut).congr same⟩

theorem trans (earlier : builder.InTurn owner world pending first second)
    (later : builder.InTurn owner world pending second third) :
    builder.InTurn owner world pending first third := by
  rcases earlier with ⟨added, rfl, entered⟩
  rcases later with ⟨more, rfl, moreEntered⟩
  refine ⟨added ++ more, List.append_assoc _ _ _, ?_⟩
  intro front member behind cut
  rcases cut_append cut with ⟨rest, inAdded⟩ | ⟨rest, rfl, inMore⟩
  · exact entered front member rest inAdded
  · exact (moreEntered rest member behind inMore).earlier

/-- What enters below a module was listed by it, or by what entered meanwhile. -/
theorem below (settled : state.Settled) (made : builder.Made world known owner path added)
    (isKnown : known = builder.knownWhile state path)
    (inTurn : builder.InTurn owner world added.dependencies (state.modules.modules ++ [added])
      second) :
    builder.InTurn owner world [path] state.modules.modules second := by
  have told : known = knownAmong (state.modules.modules ++ [] ++ [added]) := by
    funext id
    rw [isKnown, Bool.eq_iff_iff, knownWhile, Bool.or_eq_true, settled.hasStatus_eq,
      decide_eq_true_eq, ModuleTable.contains_iff, knownAmong, decide_eq_true_eq, ← made.hasId]
    simp [or_comm, eq_comm]
  rcases inTurn with ⟨others, rfl, entered⟩
  refine ⟨added :: others, by simp, ?_⟩
  intro front member behind cut
  cases front with
  | nil =>
      rcases List.cons.inj cut with ⟨rfl, -⟩
      refine ⟨?_, .inl (List.mem_singleton.mpr made.hasPath)⟩
      rw [← told, made.hasPath]
      exact made
  | cons head front =>
      rcases List.cons.inj cut with ⟨rfl, further⟩
      have entry := entered front member behind further
      refine ⟨?_, ?_⟩
      · have shape := entry.made
        rwa [List.append_assoc _ [added], List.singleton_append] at shape
      · rcases entry.listed with found | ⟨earlier, inFront, listed⟩
        · exact .inr ⟨added, List.mem_cons_self, made.hasOwner, found⟩
        · exact .inr ⟨earlier, List.mem_cons_of_mem _ inFront, listed⟩

end InTurn

/-- A visit adds its modules one after the other, whether or not it fails. -/
theorem Visits.inTurn (visit : builder.Visits owner pending state world after result final)
    (settled : state.Settled) :
    builder.InTurn owner world pending state.modules.modules after.modules.modules := by
  induction visit with
  | nil state world => exact .refl
  | known _ _ induction => exact (induction settled).weaken (List.subset_cons_self _ _)
  | failed _ _ => exact .refl
  | abandoned unknown made _ induction =>
      have isMade := made_of_make made
      have below := (induction (settled.finish (isMade.unknown unknown))).congr
        (make_sameFiles made)
      rw [settled.finish_modules (isMade.unknown unknown)] at below
      exact (InTurn.below settled isMade rfl below).weaken (by simp)
  | built unknown made belowVisit _ belowInduction othersInduction =>
      have isMade := made_of_make made
      have same := make_sameFiles made
      have settledNext := settled.finish (isMade.unknown unknown)
      have below := (belowInduction settledNext).congr same
      rw [settled.finish_modules (isMade.unknown unknown)] at below
      have others := (othersInduction (belowVisit.grown settledNext).settled).congr
        (belowVisit.sameFiles.trans same)
      exact ((InTurn.below settled isMade rfl below).weaken (by simp)).trans
        (others.weaken (List.subset_cons_self _ _))

/-- A module was made for a call when those before it were in the table.  It is
the module of the call, or one before it with its owner lists its path. -/
structure EnteredFor (builder : ModuleBuilder) (call : Call) (before : List Module)
    (member : Module) : Prop where
  made : builder.Made call.world (knownAmong (before ++ [member])) call.owner member.path member
  listed : member.path = call.path ∨
    ∃ earlier ∈ before, earlier.owner = member.owner ∧ member.path ∈ earlier.dependencies

/-- Whatever is in the table after some calls, failed or not, entered it for one
of them. -/
theorem exists_enteredFor
    (cut : (builder.after calls).modules.modules = before ++ member :: behind) :
    ∃ call ∈ calls, builder.EnteredFor call before member := by
  induction calls using List.reverseRecOn generalizing before behind with
  | nil =>
      have nothing : before ++ member :: behind = [] := cut.symm
      simp at nothing
  | append_singleton calls call induction =>
      have settled := (builder.sound_after calls).settled
      rcases builder.visits_build (builder.after calls) call.owner call.path call.world with
        ⟨later, result, final, visit, called⟩
      rcases visit.inTurn settled with ⟨added, grown, entered⟩
      rw [after_append_singleton, perform, called, grown] at cut
      rcases cut_append cut with ⟨rest, inTable⟩ | ⟨front, rfl, inAdded⟩
      · rcases induction inTable with ⟨earlier, listed, entry⟩
        exact ⟨earlier, List.mem_append_left _ listed, entry⟩
      · have entry := entered front member behind inAdded
        refine ⟨call, by simp, entry.made, ?_⟩
        rcases entry.listed with given | ⟨earlier, inFront, owned, found⟩
        · exact .inl (List.mem_singleton.mp given)
        · exact .inr ⟨earlier, List.mem_append_right _ inFront,
            owned.trans entry.made.hasOwner.symm, found⟩

/-- Calls none of which fails leave nothing out. -/
theorem satisfied_of_succeeds (succeeds : builder.Succeeds calls) :
    ∀ member ∈ (builder.after calls).modules.modules,
      Satisfied (builder.after calls).modules member := by
  intro member inside id needed
  rcases builder.contains_or_abandoned calls member inside id needed with
    contained | ⟨before, call, rest, cut, abandons⟩
  · exact contained
  · rcases abandons.failed with ⟨cause, failed⟩
    rcases succeeds before call rest cut with ⟨first, returned⟩
    cases failed.symm.trans returned

/-- What a module lists, where a table has other modules before and behind
it. -/
structure ListsForward (builder : ModuleBuilder) (calls : List Call) (before : List Module)
    (member : Module) (behind : List Module) : Prop where
  /-- A file with a required identifier is listed exactly if the module with this
  identifier comes behind. -/
  listed_iff : ∀ id ∈ member.requires,
    (∃ file ∈ member.dependencies, builder.idOf file = id) ↔ ∃ later ∈ behind, later.id = id
  /-- The listed files have these identifiers, each once and in the order in which
  they are required. -/
  ordered : member.dependencies.map builder.idOf =
    member.requires.filter fun id => decide (id ∈ behind.map Module.id)
  /-- Specifiers of the module lead to the listed files. -/
  required : ∃ call ∈ calls, member.owner = call.owner ∧
    ∀ file ∈ member.dependencies, builder.RequiresFile call.world member.path file
  /-- The module is that of a call, or is listed before by one with its owner. -/
  found : (∃ call ∈ calls, member.owner = call.owner ∧ member.path = call.path) ∨
    ∃ earlier ∈ before, earlier.owner = member.owner ∧ member.path ∈ earlier.dependencies

/-- In a table that is built by calls none of which fails, every module lists
files for what comes behind it of all that it requires, and is listed before
unless a call named it. -/
theorem builds_listForward (builder : ModuleBuilder) (calls : List Call)
    (succeeds : builder.Succeeds calls) {before behind : List Module} {member : Module}
    (cut : (builder.after calls).modules.modules = before ++ member :: behind) :
    builder.ListsForward calls before member behind := by
  rcases exists_enteredFor cut with ⟨call, listed, entered⟩
  rcases entered.made.cover with ⟨files, -, cover⟩
  have inside : member ∈ (builder.after calls).modules.modules := by simp [cut]
  have distinct := (builder.after calls).modules.distinct
  rw [cut, ← List.singleton_append, ← List.append_assoc, List.map_append] at distinct
  -- what is required is in the table, and so behind the module if it was not known
  have unknown_iff : ∀ id ∈ member.requires,
      (!knownAmong (before ++ [member]) id) = decide (id ∈ behind.map Module.id) := by
    intro id needed
    rcases ModuleTable.contains_iff.mp (satisfied_of_succeeds succeeds member inside id needed)
      with ⟨other, otherInside, rfl⟩
    rw [cut, ← List.singleton_append, ← List.append_assoc] at otherInside
    rcases List.mem_append.mp otherInside with early | late
    · have earlyId : other.id ∈ (before ++ [member]).map Module.id := List.mem_map_of_mem early
      have notLate := fun late => List.disjoint_of_nodup_append distinct earlyId late
      rw [knownAmong, decide_eq_true earlyId, decide_eq_false notLate]
      rfl
    · have lateId : other.id ∈ behind.map Module.id := List.mem_map_of_mem late
      have notEarly := fun early => List.disjoint_of_nodup_append distinct early lateId
      rw [knownAmong, decide_eq_false notEarly, decide_eq_true lateId]
      rfl
  have ordered : member.dependencies.map builder.idOf =
      member.requires.filter fun id => decide (id ∈ behind.map Module.id) :=
    cover.map_dependencies.trans (List.filter_congr unknown_iff)
  refine ⟨?_, ordered, ?_, ?_⟩
  · intro id needed
    rw [← List.mem_map, ordered, List.mem_filter, decide_eq_true_eq, List.mem_map]
    exact and_iff_right needed
  · exact ⟨call, listed, entered.made.hasOwner, fun file => entered.made.requiresFile⟩
  · exact entered.listed.imp_left fun given => ⟨call, listed, entered.made.hasOwner, given⟩

/-- Two modules that require each other, and a third that both require and that
another entry requires too. -/
def waitingWorld : World where
  tree := ⟨[(["work"], .directory),
    (["work", "a.js"], .file "require('./c'); require('./b');".toUTF8),
    (["work", "b.js"], .file "".toUTF8),
    (["work", "c.js"], .file "require('./a'); require('./c'); require('./b');".toUTF8),
    (["work", "d.js"], .file "require('./b');".toUTF8)]⟩
  workingDirectory := ["work"]
  journal := []

def waitingCalls : List Call :=
  [⟨"first", ⟨"/work/a.js"⟩, waitingWorld⟩, ⟨"second", ⟨"/work/d.js"⟩, waitingWorld⟩]

theorem succeeds_waiting : plainBuilder.Succeeds waitingCalls := by
  have returns {before : List Call} {call : Call}
      (isOk : ((plainBuilder.outcome (plainBuilder.after before) call).toOption.join).isSome) :
      ∃ first, plainBuilder.outcome (plainBuilder.after before) call = .ok (some first) := by
    generalize plainBuilder.outcome (plainBuilder.after before) call = outcome at isOk ⊢
    rcases outcome with cause | _ | first
    · cases isOk
    · cases isOk
    · exact ⟨first, rfl⟩
  have nothing : plainBuilder.Succeeds [] := by
    intro before call rest cut
    simp at cut
  have first : plainBuilder.Succeeds ([] ++ waitingCalls.take 1) :=
    succeeds_append_singleton_iff.mpr ⟨nothing, returns (by decide +kernel)⟩
  exact succeeds_append_singleton_iff.mpr ⟨first, returns (by decide +kernel)⟩

/-- The module in the middle lists the third file, which waits since the first
module was made, and neither itself nor the first. -/
theorem builds_listForward_waiting :
    ∃ before member behind,
      (plainBuilder.after waitingCalls).modules.modules = before ++ member :: behind ∧
        before.map Module.id = ["./a.js"] ∧ behind.map Module.id = ["./b.js", "./d.js"] ∧
        member.requires = ["./a.js", "./c.js", "./b.js"] ∧
        member.dependencies = [⟨"/work/b.js"⟩] ∧
        plainBuilder.ListsForward waitingCalls before member behind := by
  have evaluated : (plainBuilder.after waitingCalls).modules.modules.map
      (fun member => (member.id, member.requires, member.dependencies)) =
        [("./a.js", ["./c.js", "./b.js"], [⟨"/work/c.js"⟩, ⟨"/work/b.js"⟩]),
          ("./c.js", ["./a.js", "./c.js", "./b.js"], [⟨"/work/b.js"⟩]),
          ("./b.js", [], []), ("./d.js", ["./b.js"], [])] := by
    decide +kernel
  rcases List.map_eq_cons_iff.mp evaluated with ⟨first, others, cut, firstTold, othersTold⟩
  rcases List.map_eq_cons_iff.mp othersTold with ⟨member, behind, rfl, memberTold, behindTold⟩
  refine ⟨[first], member, behind, cut, ?_, ?_, ?_, ?_,
    builds_listForward plainBuilder waitingCalls succeeds_waiting cut⟩
  · simpa using (Prod.mk.inj firstTold).1
  · have ids := congrArg (List.map Prod.fst) behindTold
    rwa [List.map_map] at ids
  · exact congrArg (fun told => told.2.1) memberTold
  · exact congrArg (fun told => told.2.2) memberTold

end ScriptBundle.ModuleBuilder
