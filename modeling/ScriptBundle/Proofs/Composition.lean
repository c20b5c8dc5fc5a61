import ScriptBundle.Proofs.Journal

/-!
# Composition of loaders

The loaders that rules select for a path are run one after the other, the last
one first.  So the loaders of some rules followed by those of others make of a
text what the first make of what the others made of it, and a run that fails
stops at a loader whose predecessors never get to see the text.

What loaders make of a text is also told without running them: `Passes` relates
the text they are given to the text they leave.
-/

namespace ScriptBundle

/-- A rule has nothing to say about a path: it is not one of those the rule is
for, or one of those it leaves out. -/
def Rule.Skips (rule : Rule) (shown : String) : Prop :=
  rule.test.matchesText shown = false ∨ ∃ exclude ∈ rule.exclude, exclude.matchesText shown = true

theorem Rule.Skips.appliesTo_eq_false {rule : Rule} {shown : String} (skips : rule.Skips shown) :
    rule.appliesTo shown = false := by
  rw [Rule.appliesTo]
  rcases skips with notFor | ⟨exclude, given, leavesOut⟩
  · rw [notFor, Bool.false_and]
  · rw [Option.mem_def.mp given, Option.any_some, leavesOut, Bool.not_true, Bool.and_false]

namespace LoaderRegistry

variable {registry : LoaderRegistry} {rules : List Rule} {rule : Rule} {path : Path}

/-- Every loader that a rule names is there. -/
def Knows (registry : LoaderRegistry) (rule : Rule) : Prop :=
  ∀ name ∈ rule.loaders, (registry.get? name).isSome = true

instance (registry : LoaderRegistry) (rule : Rule) : Decidable (registry.Knows rule) :=
  inferInstanceAs (Decidable (∀ name ∈ rule.loaders, (registry.get? name).isSome = true))

/-- The loaders that a rule names, in its order. -/
def loadersOf (registry : LoaderRegistry) (rule : Rule) : List Loader :=
  rule.loaders.filterMap registry.get?

/-- Rules with the loaders they name. -/
def linked (registry : LoaderRegistry) (rules : List Rule) : Pipeline :=
  ⟨rules.map fun rule => (rule, registry.loadersOf rule)⟩

/-- The loaders that rules select for a path: those of the rules that apply to
it as it is written with slashes, rule after rule. -/
def selected (registry : LoaderRegistry) (rules : List Rule) (path : Path) : List Loader :=
  (rules.filter fun rule => rule.appliesTo (Path.slashed path.text)).flatMap registry.loadersOf

theorem loaderNamed_mapM {names : List String}
    (known : ∀ name ∈ names, (registry.get? name).isSome = true) :
    names.mapM (Pipeline.loaderNamed registry) = .ok (names.filterMap registry.get?) := by
  induction names with
  | nil => rfl
  | cons name rest induction =>
      rcases List.forall_mem_cons.mp known with ⟨here, others⟩
      rcases Option.isSome_iff_exists.mp here with ⟨loader, found⟩
      rw [List.mapM_cons, Pipeline.loaderNamed, found, induction others,
        List.filterMap_cons_some found]
      rfl

/-- Rules whose loaders are all there make a pipeline. -/
theorem ofRules_eq_linked (known : ∀ rule ∈ rules, registry.Knows rule) :
    Pipeline.ofRules registry rules = .ok (registry.linked rules) := by
  have each : rules.mapM (fun rule => do
        let loaders ← rule.loaders.mapM (Pipeline.loaderNamed registry)
        pure (rule, loaders)) =
      (.ok (rules.map fun rule => (rule, registry.loadersOf rule)) : Except BuildError _) := by
    induction rules with
    | nil => rfl
    | cons rule rest induction =>
        rcases List.forall_mem_cons.mp known with ⟨here, others⟩
        rw [List.mapM_cons, loaderNamed_mapM here, induction others]
        rfl
  rw [Pipeline.ofRules, each]
  rfl

theorem matching_linked (registry : LoaderRegistry) (rules : List Rule) (path : Path) :
    (registry.linked rules).matching path = registry.selected rules path := by
  simp [Pipeline.matching, linked, selected, List.filter_map, List.flatMap_map, Function.comp_def]

theorem selected_append (registry : LoaderRegistry) (first second : List Rule) (path : Path) :
    registry.selected (first ++ second) path =
      registry.selected first path ++ registry.selected second path := by
  simp [selected]

/-- A rule selects its loaders or none. -/
theorem selected_cons (registry : LoaderRegistry) (rule : Rule) (rest : List Rule) (path : Path) :
    registry.selected (rule :: rest) path =
      (if rule.appliesTo (Path.slashed path.text) then registry.loadersOf rule else []) ++
        registry.selected rest path := by
  rw [selected, List.filter_cons]
  split
  · rw [List.flatMap_cons, selected]
  · rw [List.nil_append, selected]

/-- Whether the loaders of a rule stand in one rule or in two with the same
patterns makes no difference to what is selected. -/
theorem selected_split (registry : LoaderRegistry) (test : Pattern) (exclude : Option Pattern)
    (left right : List String) (rest : List Rule) (path : Path) :
    registry.selected (⟨test, exclude, left⟩ :: ⟨test, exclude, right⟩ :: rest) path =
      registry.selected (⟨test, exclude, left ++ right⟩ :: rest) path := by
  rw [selected_cons, selected_cons, selected_cons, ← List.append_assoc]
  have sameTest (loaders : List String) (shown : String) :
      (⟨test, exclude, loaders⟩ : Rule).appliesTo shown =
        (⟨test, exclude, []⟩ : Rule).appliesTo shown := rfl
  rw [sameTest left, sameTest right, sameTest (left ++ right)]
  split
  · simp [loadersOf]
  · rfl

theorem selected_of_skips (skips : rule.Skips (Path.slashed path.text)) :
    registry.selected [rule] path = [] := by
  rw [selected_cons, skips.appliesTo_eq_false]
  rfl

end LoaderRegistry

/-- A text goes through some loaders, the last of them first. -/
inductive Passes (path : Path) : List Loader → String → String → Prop where
  | untouched (text : String) : Passes path [] text text
  | through {loader : Loader} {rest : List Loader} {source reached text : String}
      (before : Passes path rest source reached)
      (turned : loader.transform reached path = .ok text) : Passes path (loader :: rest) source text

namespace Pipeline

variable {path : Path} {loaders : List Loader} {source text : String}
  {world after : World} {cause : BuildError}

/-- The calls of some loaders, the last of them first. -/
def calls (path : Path) (loaders : List Loader) : List Event :=
  loaders.reverse.map fun loader => .applyingLoader loader.name path

theorem calls_cons (path : Path) (loader : Loader) (rest : List Loader) :
    calls path (loader :: rest) = calls path rest ++ [.applyingLoader loader.name path] := by
  simp [calls]

theorem runLoaders_append (path : Path) (left right : List Loader) (source : String) :
    runLoaders path (left ++ right) source =
      runLoaders path right source >>= runLoaders path left := by
  rw [runLoaders, List.reverse_append, List.foldlM_append]
  rfl

theorem runLoaders_cons (path : Path) (loader : Loader) (rest : List Loader) (source : String) :
    runLoaders path (loader :: rest) source =
      runLoaders path rest source >>= fun text => loader.run path text := by
  rw [← List.singleton_append, runLoaders_append]
  congr 1
  funext text
  rw [runLoaders, List.reverse_singleton, List.foldlM_cons]
  simp

/-- Loaders that succeed are all called, and make what the text passes to. -/
theorem runLoaders_ok_iff :
    runLoaders path loaders source world = (.ok text, after) ↔
      Passes path loaders source text ∧ after = world.recordAll (calls path loaders) := by
  induction loaders generalizing text after with
  | nil =>
      constructor
      · intro ran
        cases ran
        exact ⟨.untouched source, (World.recordAll_nil world).symm⟩
      · rintro ⟨passes, rfl⟩
        cases passes
        rw [show calls path [] = [] from rfl, World.recordAll_nil]
        rfl
  | cons loader rest induction =>
      rw [runLoaders_cons]
      constructor
      · intro ran
        rcases Action.bind_ok ran with ⟨reached, middle, earlier, last⟩
        rcases induction.mp earlier with ⟨passes, rfl⟩
        rw [loader_run_apply] at last
        cases turned : loader.transform reached path with
        | error failure =>
            rw [turned] at last
            cases last
        | ok made =>
            rw [turned] at last
            cases last
            refine ⟨.through passes turned, ?_⟩
            rw [calls_cons, ← World.recordAll_recordAll]
            rfl
      · rintro ⟨_ | ⟨before, turned⟩, rfl⟩
        rw [Action.bind_apply, induction.mpr ⟨before, rfl⟩]
        dsimp only
        rw [loader_run_apply, turned, calls_cons, ← World.recordAll_recordAll]
        rfl

/-- Loaders that fail stop at the first that fails, the last declared first.
The loaders before it are not called. -/
theorem runLoaders_error_iff :
    runLoaders path loaders source world = (.error cause, after) ↔
      ∃ left loader right reached failure, loaders = left ++ loader :: right ∧
        Passes path right source reached ∧ loader.transform reached path = .error failure ∧
        cause = .transform loader.name path failure ∧
        after = world.recordAll (calls path (loader :: right)) := by
  constructor
  · intro ran
    induction loaders generalizing after with
    | nil => cases ran
    | cons loader rest induction =>
        rw [runLoaders_cons] at ran
        rcases Action.bind_error ran with earlier | ⟨reached, middle, earlier, last⟩
        · rcases induction earlier with
            ⟨left, failing, right, reached, failure, rfl, passes, failed, told, noted⟩
          exact ⟨loader :: left, failing, right, reached, failure, rfl, passes, failed, told, noted⟩
        · rcases runLoaders_ok_iff.mp earlier with ⟨passes, rfl⟩
          -- What comes after the first loader succeeded, so it is this one that fails.
          rw [loader_run_apply] at last
          cases failed : loader.transform reached path with
          | ok made =>
              rw [failed] at last
              cases last
          | error failure =>
              rw [failed] at last
              cases last
              refine ⟨[], loader, rest, reached, failure, rfl, passes, failed, rfl, ?_⟩
              rw [calls_cons, ← World.recordAll_recordAll]
              rfl
  · rintro ⟨left, loader, right, reached, failure, rfl, passes, failed, rfl, rfl⟩
    have ran : runLoaders path right source world =
        (.ok reached, world.recordAll (calls path right)) :=
      runLoaders_ok_iff.mpr ⟨passes, rfl⟩
    rw [runLoaders_append, runLoaders_cons, Action.bind_apply, Action.bind_apply, ran]
    dsimp only
    rw [loader_run_apply, failed, calls_cons, ← World.recordAll_recordAll]
    rfl

theorem apply_linked (registry : LoaderRegistry) (rules : List Rule) (path : Path)
    (source : String) :
    (registry.linked rules).apply path source =
      runLoaders path (registry.selected rules path) source := by
  rw [apply, LoaderRegistry.matching_linked]

/-- The pipeline of some rules followed by others does what that of the others
does, and to what comes out of it, if it succeeds, what that of the first rules
does.  It makes no difference whether the loaders of a rule stand in one rule or
in two, and a rule that skips the path does nothing.

The pipeline succeeds with a text that the source passes to through all selected
loaders.  It fails with the error of the first loader that fails, the last
declared first, and the loaders declared before that are not called. -/
theorem ofRules_append_apply {registry : LoaderRegistry} {first second : List Rule}
    (known : ∀ rule ∈ first ++ second, registry.Knows rule) (path : Path) (source : String) :
    (∃ left right whole, ofRules registry first = .ok left ∧ ofRules registry second = .ok right ∧
      ofRules registry (first ++ second) = .ok whole ∧
      whole.apply path source = right.apply path source >>= left.apply path ∧
      ∀ world later,
        (∀ text, whole.apply path source world = (.ok text, later) ↔
          Passes path (registry.selected (first ++ second) path) source text ∧
          later = world.recordAll (calls path (registry.selected (first ++ second) path))) ∧
        ∀ cause, whole.apply path source world = (.error cause, later) ↔
          ∃ uncalled loader called reached failure,
            registry.selected (first ++ second) path = uncalled ++ loader :: called ∧
            Passes path called source reached ∧ loader.transform reached path = .error failure ∧
            cause = .transform loader.name path failure ∧
            later = world.recordAll (calls path (loader :: called))) ∧
    (∀ test exclude left right, (∀ name ∈ left ++ right, (registry.get? name).isSome = true) →
      ∃ one two, ofRules registry (first ++ ⟨test, exclude, left ++ right⟩ :: second) = .ok one ∧
        ofRules registry (first ++ ⟨test, exclude, left⟩ :: ⟨test, exclude, right⟩ :: second) =
          .ok two ∧
        two.apply path source = one.apply path source) ∧
    ∀ rule, registry.Knows rule → rule.Skips (Path.slashed path.text) →
      ∃ single, ofRules registry [rule] = .ok single ∧ single.apply path source = pure source := by
  rcases List.forall_mem_append.mp known with ⟨knownFirst, knownSecond⟩
  refine ⟨⟨registry.linked first, registry.linked second, registry.linked (first ++ second),
    LoaderRegistry.ofRules_eq_linked knownFirst, LoaderRegistry.ofRules_eq_linked knownSecond,
    LoaderRegistry.ofRules_eq_linked known, ?composed, fun world later => ?_⟩, ?split, ?skipped⟩
  case composed =>
    rw [apply_linked, apply_linked, LoaderRegistry.selected_append, runLoaders_append]
    congr 1
    funext text
    rw [apply_linked]
  · rw [apply_linked]
    exact ⟨fun text => runLoaders_ok_iff, fun cause => runLoaders_error_iff⟩
  case split =>
    intro test exclude left right named
    rcases List.forall_mem_append.mp named with ⟨namedLeft, namedRight⟩
    refine ⟨_, _, LoaderRegistry.ofRules_eq_linked ?_, LoaderRegistry.ofRules_eq_linked ?_, ?_⟩
    · exact List.forall_mem_append.mpr ⟨knownFirst, List.forall_mem_cons.mpr ⟨named, knownSecond⟩⟩
    · exact List.forall_mem_append.mpr ⟨knownFirst, List.forall_mem_cons.mpr ⟨namedLeft,
        List.forall_mem_cons.mpr ⟨namedRight, knownSecond⟩⟩⟩
    · rw [apply_linked, apply_linked, LoaderRegistry.selected_append,
        LoaderRegistry.selected_split, ← LoaderRegistry.selected_append]
  case skipped =>
    intro rule knownRule skips
    refine ⟨_, LoaderRegistry.ofRules_eq_linked (List.forall_mem_singleton.mpr knownRule), ?_⟩
    rw [apply_linked, LoaderRegistry.selected_of_skips skips]
    rfl

/-- A loader that wraps a text. -/
def wrapLoader : Loader :=
  ⟨"wrap", fun source _ => .ok ("wrap(" ++ source ++ ")")⟩

/-- A loader that refuses every text. -/
def refuseLoader : Loader :=
  ⟨"refuse", fun _ _ => .error (.ofMessage "refused")⟩

/-- A rule that wraps every text, and one without loaders. -/
def wrappingRules : List Rule :=
  [⟨⟨"", .empty⟩, none, ["wrap"]⟩, ⟨⟨"", .empty⟩, none, []⟩]

/-- A rule that leaves out every path, and one with a loader that refuses what
is left of a text without its byte order mark. -/
def refusingRules : List Rule :=
  [⟨⟨"", .empty⟩, some ⟨"", .empty⟩, ["json"]⟩, ⟨⟨"", .empty⟩, none, ["refuse", "strip-bom"]⟩]

/-- A refusal ends the run, and the loader declared before is not called. -/
theorem ofRules_append_apply_refused :
    ∃ whole, ofRules ((LoaderRegistry.default.add wrapLoader).add refuseLoader)
        (wrappingRules ++ refusingRules) = .ok whole ∧
      ∀ world, whole.apply ⟨"/work/a.js"⟩ "\uFEFF1;" world =
        (.error (.transform "refuse" ⟨"/work/a.js"⟩ (.ofMessage "refused")),
          world.recordAll [.applyingLoader "strip-bom" ⟨"/work/a.js"⟩,
            .applyingLoader "refuse" ⟨"/work/a.js"⟩]) := by
  have known : ∀ rule ∈ wrappingRules ++ refusingRules,
      ((LoaderRegistry.default.add wrapLoader).add refuseLoader).Knows rule := by decide
  rcases (ofRules_append_apply known ⟨"/work/a.js"⟩ "\uFEFF1;").1 with
    ⟨left, right, whole, -, -, made, -, runs⟩
  refine ⟨whole, made, fun world => ((runs world _).2 _).mpr ?_⟩
  have unmarked : Literal.withoutMark "\uFEFF1;" = "1;" := by decide
  have stripped : Passes ⟨"/work/a.js"⟩ [Loader.stripMark] "\uFEFF1;" "1;" :=
    .through (.untouched _) (congrArg Except.ok unmarked)
  exact ⟨[wrapLoader], refuseLoader, [Loader.stripMark], "1;", .ofMessage "refused", by rfl,
    stripped, rfl, rfl, rfl⟩

end Pipeline

end ScriptBundle
