import ScriptBundle.Proofs.Growth

/-!
# What the journal tells

The parts of a build that look at files note every question in the journal, and
change nothing else.  So the journal decides what they do: in another world that
gives the same answers to the noted questions they come to the same result and
note the same events.

Some events are effects: a tap is called, the text of a module is asked for, the
output directory is removed, a bundle was written.  Making a module has one
effect, the reading of its file, and building modules reads their files one
after the other in build order.
-/

namespace ScriptBundle

/-- What a run does that others can notice.  A call, a reading and a removal are
noted when they begin, a bundle when it is written. -/
inductive Effect where
  | call (hook : Hook) (tap : String)
  | read (path : Path)
  | remove (path : Path)
  | write (path : Path)
deriving DecidableEq, Repr

def Event.effect? : Event → Option Effect
  | .callingTap hook name => some (.call hook name)
  | .read path => some (.read path)
  | .cleaning path => some (.remove path)
  | .wrote path => some (.write path)
  | _ => none

/-- The effects among some events, in order. -/
def effectsOf (events : List Event) : List Effect :=
  events.filterMap Event.effect?

@[simp]
theorem effectsOf_nil : effectsOf [] = [] :=
  rfl

/-- The effects of events come in the order of the events. -/
@[simp]
theorem effectsOf_append (left right : List Event) :
    effectsOf (left ++ right) = effectsOf left ++ effectsOf right :=
  List.filterMap_append

/-- Whether two worlds answer alike what an event asks of the files. -/
def Event.AnsweredAlike (left right : World) : Event → Prop
  | .probed path _ => left.tree.isFile left.workingDirectory path =
      right.tree.isFile right.workingDirectory path
  | .read path => left.tree.readText left.workingDirectory path =
      right.tree.readText right.workingDirectory path
  | _ => True

instance (left right : World) : DecidablePred (Event.AnsweredAlike left right)
  | .probed _ _ => inferInstanceAs (Decidable (_ = _))
  | .read _ => inferInstanceAs (Decidable (_ = _))
  | .resolved _ _ | .building _ _ | .applyingLoader _ _ | .linked _ _ _ | .applyingPlugin _
  | .callingTap _ _ | .rendering _ _ _ | .cleaning _ | .wrote _ | .announced _ | .loadingConfig _
  | .noConfig _ | .noted _ => isTrue trivial

namespace World

/-- A world with more events in its journal. -/
def recordAll (world : World) (events : List Event) : World :=
  { world with journal := world.journal ++ events }

@[simp]
theorem recordAll_tree (world : World) (events : List Event) :
    (world.recordAll events).tree = world.tree :=
  rfl

@[simp]
theorem recordAll_workingDirectory (world : World) (events : List Event) :
    (world.recordAll events).workingDirectory = world.workingDirectory :=
  rfl

theorem recordAll_nil (world : World) : world.recordAll [] = world := by
  simp [recordAll]

/-- Events that are noted after others come behind them. -/
theorem recordAll_recordAll (world : World) (left right : List Event) :
    (world.recordAll left).recordAll right = world.recordAll (left ++ right) := by
  simp [recordAll]

/-- Two worlds answer alike whatever some events ask. -/
def AnswersAlike (left right : World) (events : List Event) : Prop :=
  ∀ event ∈ events, event.AnsweredAlike left right

instance (left right : World) (events : List Event) : Decidable (left.AnswersAlike right events) :=
  inferInstanceAs (Decidable (∀ event ∈ events, event.AnsweredAlike left right))

/-- What worlds answer is told by their files. -/
theorem AnswersAlike.congr {left right otherLeft otherRight : World} {events : List Event}
    (alike : left.AnswersAlike right events) (sameLeft : otherLeft.SameFiles left)
    (sameRight : otherRight.SameFiles right) : otherLeft.AnswersAlike otherRight events := by
  intro event listed
  have told := alike event listed
  cases event with
  | probed path isFile =>
      simpa only [Event.AnsweredAlike, sameLeft.tree, sameLeft.workingDirectory, sameRight.tree,
        sameRight.workingDirectory] using told
  | read path =>
      simpa only [Event.AnsweredAlike, sameLeft.tree, sameLeft.workingDirectory, sameRight.tree,
        sameRight.workingDirectory] using told
  | _ => trivial

theorem recordAll_sameFiles (world : World) (events : List Event) :
    (world.recordAll events).SameFiles world :=
  ⟨rfl, rfl⟩

/-- Questions are answered alike if each of them is. -/
theorem answersAlike_append {left right : World} {first second : List Event} :
    left.AnswersAlike right (first ++ second) ↔
      left.AnswersAlike right first ∧ left.AnswersAlike right second :=
  List.forall_mem_append

end World

namespace Action

variable {Cause Result Next : Type} {action : Action Cause Result}
  {next : Result → Action Cause Next} {world : World} {events more : List Event}
  {effects : List Effect}

/-- All that an action does to a world is to note some events; and it does the
same wherever what they ask is answered alike. -/
structure Tells (action : Action Cause Result) (world : World) (events : List Event) : Prop where
  after : (action world).2 = world.recordAll events
  repeated : ∀ other, world.AnswersAlike other events →
    action other = ((action world).1, other.recordAll events)

namespace Tells

/-- An action that told its events does the same wherever these are answered alike. -/
theorem of_eq {outcome : Except Cause Result} {final : World} (told : Tells action world events)
    (ran : action world = (outcome, final)) :
    final = world.recordAll events ∧ ∀ other, world.AnswersAlike other events →
      action other = (outcome, other.recordAll events) := by
  have after := told.after
  have repeated := told.repeated
  rw [ran] at after repeated
  exact ⟨after, repeated⟩

theorem pure (result : Result) (world : World) :
    Tells (Pure.pure result : Action Cause Result) world [] := by
  refine ⟨world.recordAll_nil.symm, ?_⟩
  intro other _
  rw [other.recordAll_nil]
  rfl

theorem throw (cause : Cause) (world : World) :
    Tells (MonadExcept.throw cause : Action Cause Result) world [] := by
  refine ⟨world.recordAll_nil.symm, ?_⟩
  intro other _
  rw [other.recordAll_nil]
  rfl

theorem record (event : Event) (world : World) :
    Tells (Build.record event : Action Cause Unit) world [event] :=
  ⟨rfl, fun _ _ => rfl⟩

/-- An action that fails first tells the events of its first part. -/
theorem bind_error {cause : Cause} (first : Tells action world events)
    (failed : (action world).1 = .error cause) : Tells (action >>= next) world events := by
  constructor
  · rw [bind_of_error failed]
    exact first.after
  · intro other alike
    have same := first.repeated other alike
    rw [bind_of_error failed, bind_of_error (by rw [same]; exact failed), same]

/-- The events of a composed action are those of its parts, one after the other. -/
theorem bind_ok {result : Result} (first : Tells action world events)
    (succeeded : (action world).1 = .ok result)
    (second : Tells (next result) (world.recordAll events) more) :
    Tells (action >>= next) world (events ++ more) := by
  constructor
  · rw [bind_of_ok succeeded, first.after, second.after, World.recordAll_recordAll]
  · intro other alike
    rw [World.answersAlike_append] at alike
    have there := first.repeated other alike.1
    have later := alike.2.congr (world.recordAll_sameFiles events)
      (other.recordAll_sameFiles events)
    rw [bind_of_ok succeeded, first.after, bind_of_ok (by rw [there]; exact succeeded), there,
      second.repeated _ later, World.recordAll_recordAll]

end Tells

/-- An action that only asks about files.  Its events tell what it does, and have
the given effects, whatever its result is. -/
def Inquires (effects : List Effect) (action : Action Cause Result) : Prop :=
  ∀ world, ∃ events, effectsOf events = effects ∧ Tells action world events

namespace Inquires

theorem pure (result : Result) : Inquires [] (Pure.pure result : Action Cause Result) :=
  fun world => ⟨[], rfl, .pure result world⟩

theorem throw (cause : Cause) : Inquires [] (MonadExcept.throw cause : Action Cause Result) :=
  fun world => ⟨[], rfl, .throw cause world⟩

theorem record (event : Event) :
    Inquires event.effect?.toList (Build.record event : Action Cause Unit) := by
  intro world
  refine ⟨[event], ?_, .record event world⟩
  cases told : event.effect? <;> simp [effectsOf, told]

/-- What is done after a first action adds no effects to those of the first. -/
theorem bind (first : Inquires effects action) (second : ∀ result, Inquires [] (next result)) :
    Inquires effects (action >>= next) := by
  intro world
  rcases first world with ⟨events, shown, told⟩
  cases ended : (action world).1 with
  | error cause => exact ⟨events, shown, told.bind_error ended⟩
  | ok result =>
      rcases second result (world.recordAll events) with ⟨more, silent, continued⟩
      refine ⟨events ++ more, ?_, told.bind_ok ended continued⟩
      rw [effectsOf_append, shown, silent, List.append_nil]

/-- An event without an effect may come first. -/
theorem after_record {event : Event} (silent : event.effect? = none)
    {next : Unit → Action Cause Next} (second : Inquires effects (next ())) :
    Inquires effects (Build.record event >>= next) := by
  intro world
  rcases second (world.recordAll [event]) with ⟨more, shown, continued⟩
  refine ⟨[event] ++ more, ?_, Tells.bind_ok (.record event world) rfl continued⟩
  rw [effectsOf_append, shown]
  simp [effectsOf, silent]

/-- A loop whose rounds only ask only asks. -/
theorem foldlM {Item State : Type} {round : State → Item → Action Cause State}
    (rounds : ∀ state item, Inquires [] (round state item)) (items : List Item) (state : State) :
    Inquires [] (items.foldlM round state) := by
  induction items generalizing state with
  | nil => exact .pure state
  | cons item rest induction =>
      rw [List.foldlM_cons]
      exact .bind (rounds state item) fun next => induction next

end Inquires

end Action

/-! ## Asking about files -/

namespace Build

theorem isFile_inquires (path : Path) : Action.Inquires [] (isFile path) := by
  intro world
  refine ⟨[.probed path (world.tree.isFile world.workingDirectory path)], rfl, rfl, ?_⟩
  intro other alike
  have same : world.tree.isFile world.workingDirectory path =
      other.tree.isFile other.workingDirectory path := alike _ List.mem_cons_self
  change (Except.ok (other.tree.isFile other.workingDirectory path),
    other.record (.probed path (other.tree.isFile other.workingDirectory path))) = _
  rw [← same]
  rfl

/-- To read a file is the one effect of asking for its text. -/
theorem readFile_inquires (path : Path) : Action.Inquires [.read path] (readFile path) := by
  intro world
  refine ⟨[.read path], rfl, ?_, ?_⟩
  · rw [ModuleBuilder.readFile_apply]
    rfl
  · intro other alike
    have same : world.tree.readText world.workingDirectory path =
        other.tree.readText other.workingDirectory path := alike _ List.mem_cons_self
    rw [ModuleBuilder.readFile_apply, ModuleBuilder.readFile_apply, same]
    rfl

theorem firstFile_inquires (paths : List Path) : Action.Inquires [] (firstFile paths) := by
  induction paths with
  | nil => exact .pure none
  | cons path rest induction =>
      refine .bind (isFile_inquires path) fun found => ?_
      cases found with
      | true => exact .pure _
      | false => exact induction

/-- A specifier is resolved by asking for files only. -/
theorem resolve_inquires (extensions : List String) (directory : Path) (specifier : String) :
    Action.Inquires [] (resolve extensions directory specifier) := by
  refine .bind (firstFile_inquires _) fun found => ?_
  cases found with
  | none => exact .throw _
  | some path => exact .after_record rfl (.pure path)

end Build

namespace Linker

/-- An action that gathers references and only asks about files. -/
def Asks {Result : Type} (action : StateT References (Action BuildError) Result) : Prop :=
  ∀ references, Action.Inquires [] (action.run references)

namespace Asks

theorem pure {Result : Type} (result : Result) :
    Asks (Pure.pure result : StateT References (Action BuildError) Result) :=
  fun references => .pure (result, references)

/-- Asking for specifiers one after the other is asking. -/
theorem bind {Result Next : Type} {first : StateT References (Action BuildError) Result}
    {next : Result → StateT References (Action BuildError) Next} (asks : Asks first)
    (continues : ∀ result, Asks (next result)) : Asks (first >>= next) := by
  intro references
  rw [StateT.run_bind]
  exact .bind (asks references) fun outcome => continues outcome.1 outcome.2

end Asks

theorem identify_asks (linker : Linker) (directory : Path) (known : String → Bool)
    (specifier : String) : Asks (linker.identify directory known specifier) := by
  intro references
  rw [identify]
  simp only [StateT.run_bind, StateT.run_monadLift, StateT.run_modify, StateT.run_pure,
    bind_assoc, pure_bind, monadLift_self]
  exact .bind (Build.resolve_inquires linker.extensions directory specifier) fun _ => .pure _

mutual

/-- The specifiers of a tree are asked for while it is rewritten, and nothing
else is. -/
theorem replaceSpecifiers_asks (linker : Linker) (directory : Path) (known : String → Bool) :
    ∀ node : Script.Node, Asks (node.replaceSpecifiers (linker.identify directory known))
  | .mk kind start finish parts => by
      rw [Script.Node.replaceSpecifiers]
      cases Script.Node.specifier? kind parts with
      | some specifier =>
          exact .bind (linker.identify_asks directory known specifier) fun _ => .pure _
      | none =>
          exact .bind (replaceAllSpecifiers_asks linker directory known parts) fun _ => .pure _

theorem replaceAllSpecifiers_asks (linker : Linker) (directory : Path) (known : String → Bool) :
    ∀ nodes : List Script.Node,
      Asks (Script.Node.replaceAllSpecifiers (linker.identify directory known) nodes)
  | [] => .pure _
  | first :: rest =>
      .bind (replaceSpecifiers_asks linker directory known first) fun _ =>
        .bind (replaceAllSpecifiers_asks linker directory known rest) fun _ => .pure _

end

/-- To link a module is to ask for the files that its calls name. -/
theorem link_inquires (linker : Linker) (known : String → Bool) (path : Path) (source : String) :
    Action.Inquires [] (linker.link known path source) := by
  rw [link]
  cases Script.Program.read? source with
  | none => exact .throw _
  | some program =>
      apply Action.Inquires.bind
        (linker.replaceSpecifiers_asks path.directory known program.tree .none)
      rintro ⟨tree, references⟩
      exact .after_record rfl (.pure _)

end Linker

theorem Pipeline.apply_inquires (pipeline : Pipeline) (path : Path) (source : String) :
    Action.Inquires [] (pipeline.apply path source) := by
  apply Action.Inquires.foldlM
  intro text loader
  rw [Loader.run]
  apply Action.Inquires.after_record rfl
  cases loader.transform text path with
  | ok result => exact .pure result
  | error cause => exact .throw _

namespace ModuleBuilder

variable {builder : ModuleBuilder} {owner : String} {pending : List Path}
  {state after : BuildState} {world final : World} {result : Except BuildError Unit}

/-- Making a module reads its file and has no other effect. -/
theorem make_inquires (builder : ModuleBuilder) (known : String → Bool) (owner : String)
    (path : Path) : Action.Inquires [.read path] (builder.make known owner path) := by
  rw [make]
  apply Action.Inquires.after_record rfl
  apply Action.Inquires.bind (Build.readFile_inquires path)
  intro raw
  apply Action.Inquires.bind (builder.pipeline.apply_inquires path raw)
  intro text
  apply Action.Inquires.bind (builder.linker.link_inquires known path text)
  intro linked
  exact .pure _

/-- The readings of the files of some modules. -/
def readings (modules : List Module) : List Effect :=
  modules.map fun member => .read member.path

/-- What a visit shows that built and added some modules: the files of these
are read one after the other, and then that of the module that could not be
made, if there is one. -/
structure ShowsVisit (builder : ModuleBuilder) (world : World) (added : List Module)
    (effects : List Effect) (result : Except BuildError Unit) : Prop where
  built : ∀ member ∈ added, builder.Built world member
  effects_eq : match result with
    | .ok () => effects = readings added
    | .error cause => ∃ path known, builder.references world known path = .error cause ∧
        effects = readings added ++ [.read path]

theorem ShowsVisit.congr {other : World} {added : List Module} {effects : List Effect}
    (shows : builder.ShowsVisit world added effects result) (same : world.SameFiles other) :
    builder.ShowsVisit other added effects result := by
  refine ⟨fun member listed => (shows.built member listed).congr same, ?_⟩
  have told := shows.effects_eq
  cases result with
  | ok done => exact told
  | error cause =>
      rcases told with ⟨path, known, refused, shown⟩
      rw [builder.references_congr same] at refused
      exact ⟨path, known, refused, shown⟩

theorem ShowsVisit.append {before added : List Module} {effects : List Effect}
    (shows : builder.ShowsVisit world added effects result)
    (built : ∀ member ∈ before, builder.Built world member) :
    builder.ShowsVisit world (before ++ added) (readings before ++ effects) result := by
  refine ⟨List.forall_mem_append.mpr ⟨built, shows.built⟩, ?_⟩
  have told := shows.effects_eq
  cases result with
  | ok done =>
      dsimp only at told ⊢
      rw [told, readings, readings, readings, List.map_append]
  | error cause =>
      rcases told with ⟨path, known, refused, rfl⟩
      refine ⟨path, known, refused, ?_⟩
      simp [readings]

/-- A visit is told by its events.  It reads the files of the modules that it
adds, in their order. -/
theorem Visits.told (visit : builder.Visits owner pending state world after result final)
    (settled : state.Settled) :
    ∃ events added, final = world.recordAll events ∧
      after.modules.modules = state.modules.modules ++ added ∧
      builder.ShowsVisit world added (effectsOf events) result ∧
      ∀ other, world.AnswersAlike other events →
        builder.Visits owner pending state other after result (other.recordAll events) := by
  induction visit with
  | nil state world =>
      refine ⟨[], [], world.recordAll_nil.symm, (List.append_nil _).symm, ⟨?_, rfl⟩, ?_⟩
      · intro member listed
        cases listed
      · intro other _
        rw [other.recordAll_nil]
        exact .nil state other
  | known known _ induction =>
      rcases induction settled with ⟨events, added, ended, grown, shows, again⟩
      exact ⟨events, added, ended, grown, shows,
        fun other alike => .known known (again other alike)⟩
  | @failed path rest state world final cause unknown refused =>
      rcases builder.make_inquires (builder.knownWhile state path) owner path world with
        ⟨events, shown, told⟩
      rcases told.of_eq refused with ⟨ended, repeated⟩
      refine ⟨events, [], ended, (List.append_nil _).symm, ⟨?_, ?_⟩, ?_⟩
      · intro member listed
        cases listed
      · exact ⟨path, _, references_of_make refused, shown⟩
      · intro other alike
        exact .failed unknown (repeated other alike)
  | @abandoned path rest state after world reading final added cause unknown made below
      induction =>
      rcases builder.make_inquires (builder.knownWhile state path) owner path world with
        ⟨events, shown, told⟩
      have isMade := made_of_make made
      rcases told.of_eq made with ⟨ended, repeated⟩
      rcases induction (settled.finish (isMade.unknown unknown)) with
        ⟨more, others, endedBelow, grown, shows, again⟩
      rw [settled.finish_modules (isMade.unknown unknown), List.append_assoc] at grown
      refine ⟨events ++ more, added :: others, ?_, grown, ?_, ?_⟩
      · rw [endedBelow, ended, World.recordAll_recordAll]
      · have whole := (shows.congr (make_sameFiles made)).append
          (List.forall_mem_singleton.mpr isMade.built)
        rw [effectsOf_append, shown, ← isMade.hasPath]
        exact whole
      · intro other alike
        rw [World.answersAlike_append] at alike
        have later := again (other.recordAll events)
          (alike.2.congr (make_sameFiles made) (other.recordAll_sameFiles events))
        rw [World.recordAll_recordAll] at later
        exact .abandoned unknown (repeated other alike.1) later
  | @built path rest state finished after world reading between final added result unknown made
      below others belowInduction othersInduction =>
      rcases builder.make_inquires (builder.knownWhile state path) owner path world with
        ⟨events, shown, told⟩
      have isMade := made_of_make made
      have settledNext := settled.finish (isMade.unknown unknown)
      rcases told.of_eq made with ⟨ended, repeated⟩
      rcases belowInduction settledNext with
        ⟨more, deeper, endedBelow, grownBelow, showsBelow, againBelow⟩
      rcases othersInduction (below.grown settledNext).settled with
        ⟨rest, later, endedOthers, grownOthers, showsOthers, againOthers⟩
      rw [grownBelow, settled.finish_modules (isMade.unknown unknown), List.append_assoc,
        List.append_assoc] at grownOthers
      have sameBelow := below.sameFiles.trans (make_sameFiles made)
      refine ⟨events ++ (more ++ rest), added :: (deeper ++ later), ?_, grownOthers, ?_, ?_⟩
      · rw [endedOthers, endedBelow, ended, World.recordAll_recordAll, World.recordAll_recordAll]
      · have whole := (showsOthers.congr sameBelow).append
          (List.forall_mem_cons.mpr ⟨isMade.built, (showsBelow.congr (make_sameFiles made)).built⟩)
        have readBelow : effectsOf more = readings deeper := showsBelow.effects_eq
        rw [effectsOf_append, effectsOf_append, shown, readBelow, ← isMade.hasPath]
        exact whole
      · intro other alike
        rw [World.answersAlike_append, World.answersAlike_append] at alike
        have belowAgain := againBelow (other.recordAll events)
          (alike.2.1.congr (make_sameFiles made) (other.recordAll_sameFiles events))
        have othersAgain := againOthers ((other.recordAll events).recordAll more)
          (alike.2.2.congr sameBelow
            (((other.recordAll events).recordAll_sameFiles more).trans
              (other.recordAll_sameFiles events)))
        rw [World.recordAll_recordAll _ more rest,
          World.recordAll_recordAll _ events (more ++ rest)] at othersAgain
        exact .built unknown (repeated other alike.1) belowAgain othersAgain

end ModuleBuilder

end ScriptBundle
