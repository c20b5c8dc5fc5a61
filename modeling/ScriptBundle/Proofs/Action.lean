import ScriptBundle.World

/-!
# Laws of actions

An action of a build takes a world to a result and another world.  Here its
composition is opened once: what a composed action does is told by what its
parts do, and a composed action that succeeds has parts that succeed.

Most parts of a build only look at files.  `KeepsFiles` says so of an action,
whatever its result is, and is closed under composition.
-/

namespace ScriptBundle

namespace World

/-- Two worlds whose files, and whose way of finding them, are the same. -/
structure SameFiles (left right : World) : Prop where
  tree : left.tree = right.tree
  workingDirectory : left.workingDirectory = right.workingDirectory

namespace SameFiles

theorem refl (world : World) : SameFiles world world :=
  ⟨rfl, rfl⟩

theorem symm {left right : World} (same : SameFiles left right) :
    SameFiles right left :=
  ⟨same.tree.symm, same.workingDirectory.symm⟩

/-- Worlds with the same files as another have the same files. -/
theorem trans {left middle right : World}
    (first : SameFiles left middle) (second : SameFiles middle right) :
    SameFiles left right :=
  ⟨first.tree.trans second.tree,
    first.workingDirectory.trans second.workingDirectory⟩

end SameFiles

@[simp]
theorem record_tree (world : World) (event : Event) :
    (world.record event).tree = world.tree :=
  rfl

@[simp]
theorem record_workingDirectory (world : World) (event : Event) :
    (world.record event).workingDirectory = world.workingDirectory :=
  rfl

/-- To note an event changes no file. -/
theorem record_sameFiles (world : World) (event : Event) :
    SameFiles (world.record event) world :=
  ⟨rfl, rfl⟩

end World

namespace Action

variable {Cause Result Next : Type}

/-- An action that only answers leaves the world as it is. -/
theorem pure_apply (result : Result) (world : World) :
    (pure result : Action Cause Result) world = (.ok result, world) :=
  rfl

theorem get_apply (world : World) :
    (get : Action Cause World) world = (.ok world, world) :=
  rfl

/-- An action that notes an event cannot fail. -/
theorem record_apply (event : Event) (world : World) :
    (Build.record event : Action Cause Unit) world = (.ok (), world.record event) :=
  rfl

theorem mapError_ok {Other : Type} (wrap : Cause → Other) (result : Result) :
    (Except.ok result : Except Cause Result).mapError wrap = .ok result :=
  rfl

/-- Another name for the cause of a failure changes nothing else. -/
theorem adapt_apply {Other : Type} (wrap : Cause → Other) (action : Action Cause Result)
    (world : World) :
    (ExceptT.adapt wrap action : Action Other Result) world =
      ((action world).1.mapError wrap, (action world).2) :=
  rfl

/-- The second action of a composition runs in the world the first leaves, and
only if the first succeeds. -/
theorem bind_apply (action : Action Cause Result)
    (next : Result → Action Cause Next) (world : World) :
    (action >>= next) world =
      match action world with
      | (.ok result, after) => next result after
      | (.error cause, after) => (.error cause, after) := by
  change (match action world with
    | (result, after) => (ExceptT.bindCont next result : StateM World _) after) = _
  rcases action world with ⟨_ | _, after⟩ <;> rfl

/-- After a part that succeeds, a composed action goes on with its result. -/
theorem bind_of_ok {action : Action Cause Result} {next : Result → Action Cause Next}
    {world : World} {result : Result} (succeeded : (action world).1 = .ok result) :
    (action >>= next) world = next result (action world).2 := by
  rw [bind_apply]
  rcases ran : action world with ⟨cause | other, after⟩
  · rw [ran] at succeeded
    cases succeeded
  · rw [ran] at succeeded
    cases succeeded
    rfl

/-- A composed action fails where its first part fails. -/
theorem bind_of_error {action : Action Cause Result} {next : Result → Action Cause Next}
    {world : World} {cause : Cause} (failed : (action world).1 = .error cause) :
    (action >>= next) world = (.error cause, (action world).2) := by
  rw [bind_apply]
  rcases ran : action world with ⟨other | result, after⟩
  · rw [ran] at failed
    cases failed
    rfl
  · rw [ran] at failed
    cases failed

/-- A composed action succeeds by way of the result and the world of its first
part. -/
theorem bind_ok {action : Action Cause Result} {next : Result → Action Cause Next}
    {world after : World} {result : Next}
    (succeeded : (action >>= next) world = (.ok result, after)) :
    ∃ first middle, action world = (.ok first, middle) ∧
      next first middle = (.ok result, after) := by
  rw [bind_apply] at succeeded
  rcases ran : action world with ⟨cause | first, middle⟩
  · rw [ran] at succeeded
    cases succeeded
  · rw [ran] at succeeded
    exact ⟨first, middle, rfl, succeeded⟩

/-- A composed action that fails has a part that fails. -/
theorem bind_error {action : Action Cause Result} {next : Result → Action Cause Next}
    {world after : World} {cause : Cause}
    (failed : (action >>= next) world = (.error cause, after)) :
    action world = (.error cause, after) ∨
      ∃ first middle, action world = (.ok first, middle) ∧
        next first middle = (.error cause, after) := by
  rw [bind_apply] at failed
  rcases ran : action world with ⟨other | first, middle⟩
  · rw [ran] at failed
    cases failed
    exact .inl rfl
  · rw [ran] at failed
    exact .inr ⟨first, middle, rfl, failed⟩

/-- Where repeating an action fails. -/
theorem forM_error {Item : Type} {items : List Item} {round : Item → Action Cause Unit}
    {world after : World} {cause : Cause}
    (failed : items.forM round world = (.error cause, after)) :
    ∃ before item rest middle, items = before ++ item :: rest ∧
      before.forM round world = (.ok (), middle) ∧ round item middle = (.error cause, after) := by
  induction items generalizing world with
  | nil => cases failed
  | cons item rest induction =>
      change (round item >>= fun _ => rest.forM round) world = _ at failed
      rcases bind_error failed with here | ⟨_, middle, first, later⟩
      · exact ⟨[], item, rest, world, rfl, rfl, here⟩
      · rcases induction later with ⟨before, other, others, reached, cut, earlier, refused⟩
        refine ⟨item :: before, other, others, reached, by rw [cut, List.cons_append], ?_, refused⟩
        change (round item >>= fun _ => before.forM round) world = _
        rw [bind_apply, first]
        exact earlier

/-- An action that leaves the files as they are, whether it succeeds or not. -/
def KeepsFiles (action : Action Cause Result) : Prop :=
  ∀ world, World.SameFiles (action world).2 world

namespace KeepsFiles

theorem pure (result : Result) :
    KeepsFiles (Pure.pure result : Action Cause Result) :=
  fun world => .refl world

theorem throw (cause : Cause) :
    KeepsFiles (MonadExcept.throw cause : Action Cause Result) :=
  fun world => .refl world

theorem get : KeepsFiles (MonadState.get : Action Cause World) :=
  fun world => .refl world

theorem record (event : Event) :
    KeepsFiles (Build.record event : Action Cause Unit) :=
  fun world => world.record_sameFiles event

/-- A composed action keeps files if its parts do. -/
theorem bind {action : Action Cause Result} {next : Result → Action Cause Next}
    (first : KeepsFiles action) (second : ∀ result, KeepsFiles (next result)) :
    KeepsFiles (action >>= next) := by
  intro world
  rw [bind_apply]
  have kept := first world
  rcases ran : action world with ⟨cause | result, middle⟩
  · rw [ran] at kept
    exact kept
  · rw [ran] at kept
    exact (second result middle).trans kept

theorem foldlM {Item State : Type} {round : State → Item → Action Cause State}
    (rounds : ∀ state item, KeepsFiles (round state item)) (items : List Item) (state : State) :
    KeepsFiles (items.foldlM round state) := by
  induction items generalizing state with
  | nil => exact .pure state
  | cons item rest induction =>
      rw [List.foldlM_cons]
      exact .bind (rounds state item) fun next => induction next

end KeepsFiles

/-- An action that leaves the tree as it is, whether it succeeds or not.  It may
still go to another directory. -/
def KeepsTree (action : Action Cause Result) : Prop :=
  ∀ world, (action world).2.tree = world.tree

/-- Files that are kept make a tree that is kept. -/
theorem KeepsFiles.keepsTree {action : Action Cause Result} (keeps : KeepsFiles action) :
    KeepsTree action := by
  intro world
  exact (keeps world).tree

namespace KeepsTree

/-- The tree is kept by a composed action whose parts keep it. -/
theorem bind {action : Action Cause Result} {next : Result → Action Cause Next}
    (first : KeepsTree action) (second : ∀ result, KeepsTree (next result)) :
    KeepsTree (action >>= next) := by
  intro world
  have kept := first world
  rw [bind_apply]
  rcases ran : action world with ⟨cause | result, middle⟩
  · rw [ran] at kept
    exact kept
  · rw [ran] at kept
    exact (second result middle).trans kept

theorem forM {Item : Type} {items : List Item} {round : Item → Action Cause Unit}
    (rounds : ∀ item ∈ items, KeepsTree (round item)) : KeepsTree (items.forM round) := by
  induction items with
  | nil =>
      intro world
      rfl
  | cons item rest induction =>
      change KeepsTree (round item >>= fun _ => rest.forM round)
      apply bind (rounds item List.mem_cons_self)
      intro _
      apply induction
      intro other listed
      exact rounds other (List.mem_cons_of_mem _ listed)

end KeepsTree

/-- An action that fails for causes of one kind only. -/
def FailsBy (expected : Cause → Prop) (action : Action Cause Result) : Prop :=
  ∀ world cause after, action world = (.error cause, after) → expected cause

namespace FailsBy

variable {expected : Cause → Prop}

/-- A composed action fails by what is expected if its parts do. -/
theorem bind {action : Action Cause Result} {next : Result → Action Cause Next}
    (first : FailsBy expected action) (second : ∀ result, FailsBy expected (next result)) :
    FailsBy expected (action >>= next) := by
  intro world cause after failed
  rcases bind_error failed with here | ⟨result, middle, -, later⟩
  · exact first world cause after here
  · exact second result middle cause after later

theorem forM {Item : Type} {items : List Item} {round : Item → Action Cause Unit}
    (rounds : ∀ item ∈ items, FailsBy expected (round item)) :
    FailsBy expected (items.forM round) := by
  induction items with
  | nil =>
      intro world cause after failed
      cases failed
  | cons item rest induction =>
      change FailsBy expected (round item >>= fun _ => rest.forM round)
      apply bind (rounds item List.mem_cons_self)
      intro _
      apply induction
      intro other listed
      exact rounds other (List.mem_cons_of_mem _ listed)

/-- A loop fails by what is expected of its rounds. -/
theorem foldlM {Item State : Type} {round : State → Item → Action Cause State}
    (rounds : ∀ state item, FailsBy expected (round state item)) (items : List Item)
    (state : State) : FailsBy expected (items.foldlM round state) := by
  induction items generalizing state with
  | nil =>
      intro world cause after failed
      cases failed
  | cons item rest induction =>
      rw [List.foldlM_cons]
      exact bind (rounds state item) fun next => induction next

end FailsBy

end Action

end ScriptBundle
