import ScriptBundle.Proofs.Journal
import ScriptBundle.Proofs.Run
import ScriptBundle.Proofs.Phase

/-!
# Effects of the parts of a run

The modules of the entries are built by visits, one for each entry, and so the
journal tells what is built.  The files of the modules are read one after the
other in build order; the building stops with the first module that cannot be
made, after its file was asked for.

A tap is noted when it is called, and a bundle when it was written.  What a tap
notes for itself is no effect, and neither is the making of a directory: it is
part of the writing of a bundle.
-/

namespace ScriptBundle

namespace Bundler

variable {bundler : Bundler} {progress : BuildState × List EntryPoint}

/-- An action builds modules, in a world and after others, and is told by its
events. -/
structure ToldBuild (bundler : Bundler) (action : Build (BuildState × List EntryPoint))
    (progress : BuildState × List EntryPoint) (world : World) (events : List Event)
    (added : List Module) : Prop where
  tells : Action.Tells action world events
  shows : bundler.moduleBuilder.ShowsVisit world added (effectsOf events)
    ((action world).1.map fun _ => ())
  grown : ∀ next, (action world).1 = .ok next →
    next.1.Settled ∧ next.1.modules.modules = progress.1.modules.modules ++ added

/-- What building an entry comes to is told by what its call of the builder comes
to. -/
theorem buildEntry_congr {entry : String × String} {world other final last : World}
    {later : BuildState} {result : Except BuildError (Option Module)}
    (called : bundler.moduleBuilder.build progress.1 entry.1 (bundler.entryPath entry.2) world =
      ((later, result), final))
    (again : bundler.moduleBuilder.build progress.1 entry.1 (bundler.entryPath entry.2) other =
      ((later, result), last)) :
    bundler.buildEntry progress entry other =
      ((bundler.buildEntry progress entry world).1, last) := by
  rw [buildEntry, buildEntry, called, again]
  cases result <;> rfl

/-- The modules of one entry are built by one visit. -/
theorem buildEntry_told (settled : progress.1.Settled) (entry : String × String) (world : World) :
    ∃ events added,
      bundler.ToldBuild (bundler.buildEntry progress entry) progress world events added := by
  rcases bundler.moduleBuilder.visits_build progress.1 entry.1 (bundler.entryPath entry.2) world
    with ⟨later, result, final, visit, called⟩
  rcases visit.told settled with ⟨events, added, rfl, grown, shows, again⟩
  have here := buildEntry_congr called called
  refine ⟨events, added, ⟨?_, ?_⟩, ?_, ?_⟩
  · rw [here]
  · intro other alike
    -- the bound on the modules is another in another tree, but the visit is the same
    rcases bundler.moduleBuilder.visits_build progress.1 entry.1 (bundler.entryPath entry.2) other
      with ⟨otherLater, otherResult, otherFinal, otherVisit, otherCalled⟩
    rcases (again other alike).deterministic otherVisit with ⟨rfl, rfl, rfl⟩
    exact buildEntry_congr called otherCalled
  · rw [buildEntry, called]
    cases result <;> exact shows
  · intro next succeeded
    rw [buildEntry, called] at succeeded
    cases result with
    | error cause => cases succeeded
    | ok _ =>
        cases succeeded
        exact ⟨(visit.grown settled).settled, grown⟩

theorem buildEntries_told (settled : progress.1.Settled) (entries : List (String × String))
    (world : World) :
    ∃ events added,
      bundler.ToldBuild (entries.foldlM bundler.buildEntry progress) progress world events
        added := by
  induction entries generalizing progress world with
  | nil =>
      refine ⟨[], [], .pure progress world, ⟨?_, rfl⟩, ?_⟩
      · intro member listed
        cases listed
      · intro next succeeded
        cases succeeded
        exact ⟨settled, (List.append_nil _).symm⟩
  | cons entry rest induction =>
      rw [List.foldlM_cons]
      rcases bundler.buildEntry_told settled entry world with ⟨events, added, first⟩
      have firstShows := first.shows
      cases ended : (bundler.buildEntry progress entry world).1 with
      | error cause =>
          rw [ended] at firstShows
          refine ⟨events, added, first.tells.bind_error ended, ?_, ?_⟩
          · rw [Action.bind_of_error ended]
            exact firstShows
          · intro next succeeded
            rw [Action.bind_of_error ended] at succeeded
            cases succeeded
      | ok next =>
          rw [ended] at firstShows
          have read : effectsOf events = ModuleBuilder.readings added := firstShows.effects_eq
          rcases first.grown next ended with ⟨settledNext, grown⟩
          rcases induction settledNext (world.recordAll events) with ⟨more, others, later⟩
          refine ⟨events ++ more, added ++ others, first.tells.bind_ok ended later.tells, ?_, ?_⟩
          · rw [Action.bind_of_ok ended, first.tells.after, effectsOf_append, read]
            exact (later.shows.congr (world.recordAll_sameFiles events)).append firstShows.built
          · intro last succeeded
            rw [Action.bind_of_ok ended, first.tells.after] at succeeded
            rcases later.grown last succeeded with ⟨settledLast, whole⟩
            exact ⟨settledLast, by rw [whole, grown, List.append_assoc]⟩

/-- Building the modules of all entries is told by its events.  The files of the
modules are read in build order, and nothing else is done. -/
theorem buildModules_told (bundler : Bundler) (world : World) :
    ∃ events added, Action.Tells bundler.buildModules world events ∧
      bundler.moduleBuilder.ShowsVisit world added (effectsOf events)
        ((bundler.buildModules world).1.map fun _ => ()) ∧
      ∀ modules points, (bundler.buildModules world).1 = .ok (modules, points) →
        modules.modules = added := by
  rcases @buildEntries_told bundler (.start, []) BuildState.settled_start
    bundler.config.entries.toList world with ⟨events, added, told⟩
  have shows := told.shows
  rw [buildModules]
  cases ended : (bundler.config.entries.toList.foldlM bundler.buildEntry (.start, []) world).1 with
  | error cause =>
      rw [ended] at shows
      refine ⟨events, added, told.tells.bind_error ended, ?_, ?_⟩
      · rw [Action.bind_of_error ended]
        exact shows
      · intro modules points succeeded
        rw [Action.bind_of_error ended] at succeeded
        cases succeeded
  | ok next =>
      rw [ended] at shows
      refine ⟨events ++ [], added, told.tells.bind_ok ended (.pure _ _), ?_, ?_⟩
      · rw [Action.bind_of_ok ended, List.append_nil]
        exact shows
      · intro modules points succeeded
        rw [Action.bind_of_ok ended] at succeeded
        cases succeeded
        exact (told.grown next ended).2

end Bundler

namespace World

variable {before middle after : World} {effects more : List Effect}

/-- What was noted from one world to another has the given effects. -/
def Shows (before after : World) (effects : List Effect) : Prop :=
  ∃ events, after.journal = before.journal ++ events ∧ effectsOf events = effects

theorem Shows.refl (world : World) : world.Shows world [] :=
  ⟨[], (List.append_nil _).symm, rfl⟩

theorem Shows.trans (first : before.Shows middle effects) (second : middle.Shows after more) :
    before.Shows after (effects ++ more) := by
  rcases first with ⟨events, noted, rfl⟩
  rcases second with ⟨others, later, rfl⟩
  exact ⟨events ++ others, by rw [later, noted, List.append_assoc], effectsOf_append _ _⟩

/-- An event shows itself, if it is an effect. -/
theorem shows_record (world : World) (event : Event) :
    world.Shows (world.record event) event.effect?.toList := by
  refine ⟨[event], rfl, ?_⟩
  cases told : event.effect? <;> simp [effectsOf, told]

theorem shows_of_journal_eq (same : after.journal = before.journal) : before.Shows after [] :=
  ⟨[], by rw [same, List.append_nil], rfl⟩

end World

/-- An action that asks shows what it asks for. -/
theorem Action.Inquires.shows {Cause Result : Type} {action : Action Cause Result}
    {effects : List Effect} (inquires : Action.Inquires effects action) (world : World) :
    world.Shows (action world).2 effects := by
  rcases inquires world with ⟨events, shown, told⟩
  rw [told.after]
  exact ⟨events, rfl, shown⟩

/-- A tap that has no effects of its own: all it notes is for itself or for the
user.  It may change files, and it may fail. -/
def Tap.Discreet (tap : Tap) : Prop :=
  ∀ world : World, world.Shows (tap.action world).2 []

namespace Taps

variable {taps : Taps} {hook : Hook} {world final : World} {cause : BuildError}

/-- The calls of some taps, in order. -/
def callsOf (hook : Hook) (called : List Tap) : List Effect :=
  called.map fun tap => .call hook tap.name

@[simp]
theorem mem_callsOf {called : List Tap} {effect : Effect} :
    effect ∈ callsOf hook called ↔ ∃ tap ∈ called, .call hook tap.name = effect :=
  List.mem_map

def Discreet (taps : Taps) : Prop :=
  ∀ hook, ∀ tap ∈ taps.of hook, tap.Discreet

/-- The last of the taps that were called fails. -/
inductive Stops (taps : Taps) (hook : Hook) (world : World) : List Tap → BuildError → Prop where
  | intro {before rest : List Tap} {tap : Tap} {middle final : World} {failure : Failure}
      (cut : taps.of hook = before ++ tap :: rest)
      (earlier : before.forM (callTap hook) world = (.ok (), middle))
      (failed : tap.action (middle.record (.callingTap hook tap.name)) = (.error failure, final)) :
      Stops taps hook world (before ++ [tap]) (.hook hook tap.name failure)

/-- The taps that were called are the first of the hook. -/
theorem Stops.called_prefix {called : List Tap} (stops : taps.Stops hook world called cause) :
    called <+: taps.of hook := by
  cases stops with
  | @intro before rest tap _ _ _ cut =>
      exact ⟨rest, by rw [cut, List.append_assoc, List.singleton_append]⟩

/-- A tap is noted before it does anything. -/
theorem callTap_shows {tap : Tap} (discreet : tap.Discreet) (hook : Hook) (world : World) :
    world.Shows (callTap hook tap world).2 [.call hook tap.name] := by
  have shown := (world.shows_record (.callingTap hook tap.name)).trans
    (discreet (world.record (.callingTap hook tap.name)))
  rw [callTap]
  rcases ran : tap.action (world.record (.callingTap hook tap.name)) with ⟨_ | _, after⟩ <;>
    · rw [ran] at shown
      exact shown

theorem callAll_shows {called : List Tap}
    (discreet : ∀ tap ∈ called, tap.Discreet)
    (ran : called.forM (callTap hook) world = (.ok (), final)) :
    world.Shows final (callsOf hook called) := by
  induction called generalizing world with
  | nil =>
      cases ran
      exact .refl _
  | cons tap rest induction =>
      rcases List.forall_mem_cons.mp discreet with ⟨first, others⟩
      change (callTap hook tap >>= fun _ => rest.forM (callTap hook)) world = _ at ran
      rcases Action.bind_ok ran with ⟨_, middle, here, later⟩
      have shown := callTap_shows first hook world
      rw [here] at shown
      exact shown.trans (induction others later)

theorem Discreet.call_ok (discreet : taps.Discreet)
    (ran : taps.call hook world = (.ok (), final)) :
    world.Shows final (callsOf hook (taps.of hook)) :=
  callAll_shows (discreet hook) ran

/-- A hook fails by the first of its taps that fails. -/
theorem Discreet.call_error (discreet : taps.Discreet)
    (ran : taps.call hook world = (.error cause, final)) :
    ∃ called, taps.Stops hook world called cause ∧ world.Shows final (callsOf hook called) := by
  rcases Action.forM_error ran with ⟨before, tap, rest, middle, cut, earlier, refused⟩
  have listed : ∀ other ∈ before ++ tap :: rest, other.Discreet := by
    rw [← cut]
    exact discreet hook
  rcases List.forall_mem_append.mp listed with ⟨beforeDiscreet, othersDiscreet⟩
  have shown := callTap_shows (othersDiscreet tap List.mem_cons_self) hook middle
  rw [refused] at shown
  have whole := (callAll_shows beforeDiscreet earlier).trans shown
  rw [callTap] at refused
  rcases acted : tap.action (middle.record (.callingTap hook tap.name)) with ⟨failure | _, after⟩
  · rw [acted] at refused
    cases refused
    refine ⟨before ++ [tap], .intro cut earlier acted, ?_⟩
    rw [callsOf, List.map_append]
    exact whole
  · rw [acted] at refused
    cases refused

end Taps

namespace Build

variable {world final : World} {path : Path}

theorem makeDirectories_journal (path : Path) (world : World) :
    (makeDirectories path world).2.journal = world.journal := by
  rw [makeDirectories, Action.bind_apply, Action.get_apply]
  rcases told : world.tree.makeDirectories world.workingDirectory path with ⟨tree, cause | _⟩ <;>
    · simp only [told]
      rfl

/-- The file itself is not noted: a bundle is, after it was written. -/
theorem writeFile_journal (path : Path) (text : String) (world : World) :
    (writeFile path text world).2.journal = world.journal := by
  rw [writeFile_apply]
  split <;> rfl

theorem removeDirectory_journal (path : Path) (world : World) :
    (removeDirectory path world).2.journal = world.journal := by
  rw [removeDirectory_apply]
  split <;> rfl

end Build

namespace Asset

variable {world final : World} {asset : Asset} {assets : List Asset} {cause : BuildError}

/-- The writing of bundles, one after the other. -/
def writings (assets : List Asset) : List Effect :=
  assets.map fun asset => .write asset.path

@[simp]
theorem mem_writings {effect : Effect} :
    effect ∈ writings assets ↔ ∃ asset ∈ assets, .write asset.path = effect :=
  List.mem_map

/-- A bundle is noted when it is written, and not if that fails. -/
theorem write_shows (asset : Asset) (world : World) :
    world.Shows (asset.write world).2
      (match (asset.write world).1 with
        | .ok () => [.write asset.path]
        | .error _ => []) := by
  have filled (middle : World) :
      middle.Shows
        ((do Build.writeFile asset.path asset.text; Build.record (.wrote asset.path) : Build Unit)
          middle).2
        (match ((do Build.writeFile asset.path asset.text; Build.record (.wrote asset.path) :
            Build Unit) middle).1 with
          | .ok () => [.write asset.path]
          | .error _ => []) := by
    have silent := World.shows_of_journal_eq (Build.writeFile_journal asset.path asset.text middle)
    cases ended : (Build.writeFile asset.path asset.text middle).1 with
    | error cause =>
        rw [Action.bind_of_error ended]
        exact silent
    | ok _ =>
        rw [Action.bind_of_ok ended]
        exact silent.trans (World.shows_record _ (.wrote asset.path))
  rw [write]
  cases asset.path.parent with
  | none => exact filled world
  | some parent =>
      dsimp only
      have silent := World.shows_of_journal_eq (Build.makeDirectories_journal parent world)
      cases ended : (Build.makeDirectories parent world).1 with
      | error cause =>
          rw [Action.bind_of_error ended]
          exact silent
      | ok _ =>
          rw [Action.bind_of_ok ended]
          exact silent.trans (filled _)

theorem writeAll_shows (written : assets.forM write world = (.ok (), final)) :
    world.Shows final (writings assets) := by
  induction assets generalizing world with
  | nil =>
      cases written
      exact .refl _
  | cons asset rest induction =>
      change (asset.write >>= fun _ => rest.forM write) world = (.ok (), final) at written
      rcases Action.bind_ok written with ⟨_, middle, first, later⟩
      have shown := asset.write_shows world
      rw [first] at shown
      exact shown.trans (induction later)

end Asset

end ScriptBundle
