import ScriptBundle.Proofs.Abandonment
import ScriptBundle.Proofs.Content
import ScriptBundle.Proofs.Normalized
import ScriptBundle.Proofs.SelfContained

/-!
# Entries that are built together

Calls that come one after the other share a table, so a call finds modules that
earlier ones built.  It does not matter to a bundle: what it embeds is what the
files hold that are found from its entry by following what files require, and
this is said without any table.

The exception is an entry whose path leads to no file.  On its own it cannot be
built.  After other calls, its identifier may be that of another file.
-/

namespace ScriptBundle

/-- Two chunks embed the same, in one order or another. -/
structure Chunk.EmbedsSame (chunk other : Chunk) : Prop where
  name : chunk.name = other.name
  entry : chunk.entry.contents = other.entry.contents
  modules : (chunk.modules.map Module.contents).Perm (other.modules.map Module.contents)

namespace ModuleBuilder

variable {builder : ModuleBuilder} {calls others : List Call} {call : Call} {world : World}
  {state : BuildState} {path file start : Path} {member : Module} {chunk other : Chunk}

/-- None of the calls fails. -/
def Succeeds (builder : ModuleBuilder) (calls : List Call) : Prop :=
  ∀ before call rest, calls = before ++ call :: rest →
    ∃ first, builder.outcome (builder.after before) call = .ok (some first)

theorem succeeds_append_singleton_iff :
    builder.Succeeds (calls ++ [call]) ↔ builder.Succeeds calls ∧
      ∃ first, builder.outcome (builder.after calls) call = .ok (some first) := by
  constructor
  · intro succeeds
    refine ⟨?_, succeeds calls call [] rfl⟩
    intro before other rest cut
    exact succeeds before other (rest ++ [call]) (by rw [cut]; simp)
  · rintro ⟨succeeds, last⟩ before other rest cut
    rcases List.eq_nil_or_concat rest with rfl | ⟨more, final, rfl⟩
    · rcases List.append_inj' cut rfl with ⟨rfl, same⟩
      cases same
      exact last
    · have shorter : calls ++ [call] = (before ++ other :: more) ++ [final] := by
        rw [cut]
        simp
      exact succeeds before other more (List.append_inj' shorter rfl).1

/-- A call that succeeds has visited its path. -/
theorem visits_of_outcome {first : Module}
    (succeeded : builder.outcome state call = .ok (some first)) :
    ∃ final, builder.Visits call.owner [call.path] state call.world (builder.perform state call)
      (.ok ()) final := by
  rcases builder.visits_build state call.owner call.path call.world with
    ⟨later, result, final, visit, called⟩
  rw [outcome, called] at succeeded
  rw [perform, called]
  cases result with
  | error cause => cases succeeded
  | ok done => exact ⟨final, visit⟩

/-- Calls none of which fails visit their paths one after the other. -/
theorem joint_after (unchanged : ∀ call ∈ calls, call.world.SameFiles world)
    (succeeds : builder.Succeeds calls) :
    builder.Joint world Call.owner Call.path calls (builder.after calls) := by
  induction calls using List.reverseRecOn with
  | nil => exact joint_start builder world _ _
  | append_singleton calls call induction =>
      rcases succeeds_append_singleton_iff.mp succeeds with ⟨earlier, first, last⟩
      rcases visits_of_outcome last with ⟨final, visit⟩
      rw [after_append_singleton]
      exact (induction (fun other listed => unchanged other (List.mem_append_left _ listed))
        earlier).visit visit (unchanged call (by simp))

/-- Whether or not calls fail, the modules that they leave have the contents of
their files. -/
theorem contents_after (unchanged : ∀ call ∈ calls, call.world.SameFiles world) :
    ∀ member ∈ (builder.after calls).modules.modules,
      builder.contentsOf world member.path = .ok member.contents := by
  induction calls using List.reverseRecOn with
  | nil =>
      intro member inside
      cases inside
  | append_singleton calls call induction =>
      rcases builder.visits_build (builder.after calls) call.owner call.path call.world with
        ⟨later, result, final, visit, called⟩
      intro member inside
      rw [after_append_singleton, perform, called] at inside
      rcases visit.contents (builder.sound_after calls).settled member inside with earlier | told
      · exact induction (fun other listed => unchanged other (List.mem_append_left _ listed))
          member earlier
      · rwa [builder.contentsOf_congr (unchanged call (by simp))] at told

/-- The calls are as a run makes them, for files that stay the same. -/
structure Call.Regular (call : Call) (world : World) : Prop where
  unchanged : call.world.SameFiles world
  absolute : call.path.isAbsolute = true
  normal : call.path.normalize = call.path

section

variable (joint : builder.Joint world Call.owner Call.path calls state)
  (plain : builder.Plain world) (regular : ∀ call ∈ calls, call.Regular world)

include joint plain regular

/-- Every module is that of a file by its normalized path. -/
theorem Joint.locates (inside : member ∈ state.modules.modules) : world.Locates member.path := by
  have leadsToFile {other : Module} (inside : other ∈ state.modules.modules) :
      ∃ location, world.tree.LeadsToFile world.workingDirectory other.path location := by
    rcases joint.built other inside with ⟨known, made⟩
    exact made.leadsToFile
  rcases joint.found member inside with ⟨call, listed, -, leads⟩
  have formed : member.path.isAbsolute = true ∧ member.path.normalize = member.path := by
    clear inside
    generalize member.path = path at leads
    induction leads with
    | refl => exact ⟨(regular call listed).absolute, (regular call listed).normal⟩
    | tail _ finds induction =>
        rcases finds with ⟨finder, inside, rfl, found⟩
        rcases joint.built finder inside with ⟨known, made⟩
        have located := (made.requiresFile found).locates plain induction.1 made.leadsToFile
        exact ⟨located.absolute, located.normal⟩
  exact ⟨formed.1, formed.2, leadsToFile inside⟩

/-- The table has the module of a path if it has the identifier. -/
theorem Joint.exists_module (absolute : path.isAbsolute = true) (normal : path.normalize = path)
    (noBackslash : path.HasNoBackslash)
    (contained : state.modules.contains (builder.idOf path) = true) :
    ∃ member ∈ state.modules.modules, member.path = path := by
  rcases ModuleTable.contains_iff.mp contained with ⟨member, inside, sameId⟩
  exact ⟨member, inside, plain.eq_of_idOf_eq (joint.locates plain regular inside) absolute normal
    noBackslash ((joint.built member inside).hasId.symm.trans sameId)⟩

theorem Joint.exists_located (located : world.Locates path)
    (contained : state.modules.contains (builder.idOf path) = true) :
    ∃ member ∈ state.modules.modules, member.path = path :=
  joint.exists_module plain regular located.absolute located.normal
    (plain.hasNoBackslash located) contained

/-- A table that has the module of a file has those of all files found from
there. -/
theorem Joint.exists_reached (located : world.Locates start)
    (contained : state.modules.contains (builder.idOf start) = true)
    (reached : Relation.ReflTransGen (builder.RequiresFile world) start file) :
    ∃ member ∈ state.modules.modules, member.path = file ∧
      state.modules.Reaches (builder.idOf start) member.id := by
  induction reached with
  | refl =>
      rcases joint.exists_located plain regular located contained with
        ⟨member, inside, samePath⟩
      refine ⟨member, inside, samePath, ?_⟩
      rw [(joint.built member inside).hasId, samePath]
      exact .refl
  | @tail middle file before required induction =>
      rcases induction with ⟨finder, inside, rfl, reaches⟩
      rcases joint.built finder inside with ⟨known, made⟩
      have needed : builder.idOf file ∈ finder.requires :=
        (made.mem_requires_iff _).mpr ⟨file, required, rfl⟩
      have fileLocated := locates_of_reached plain located (before.tail required)
      rcases joint.exists_located plain regular fileLocated
        (joint.satisfied finder inside _ needed) with ⟨member, memberInside, rfl⟩
      refine ⟨member, memberInside, rfl, reaches.tail ⟨finder, inside, rfl, ?_⟩⟩
      rw [(joint.built member memberInside).hasId]
      exact needed

/-- What a table reaches from a file are the modules of the files found from
there. -/
theorem Joint.reaches_iff (located : world.Locates start)
    (contained : state.modules.contains (builder.idOf start) = true)
    (inside : member ∈ state.modules.modules) :
    state.modules.Reaches (builder.idOf start) member.id ↔
      Relation.ReflTransGen (builder.RequiresFile world) start member.path := by
  have same {left right : Module} (isLeft : left ∈ state.modules.modules)
      (isRight : right ∈ state.modules.modules) (sameId : left.id = right.id) : left = right :=
    List.inj_on_of_nodup_map state.modules.distinct isLeft isRight sameId
  constructor
  · intro reaches
    generalize sameId : member.id = id at reaches
    induction reaches generalizing member with
    | refl =>
        rcases joint.exists_located plain regular located contained with
          ⟨first, firstInside, rfl⟩
        rw [same inside firstInside (sameId.trans (joint.built first firstInside).hasId.symm)]
    | tail _ requires induction =>
        rcases requires with ⟨finder, finderInside, rfl, needed⟩
        have before := induction finderInside rfl
        rcases joint.built finder finderInside with ⟨known, made⟩
        rcases (made.mem_requires_iff _).mp needed with ⟨file, required, fileId⟩
        rcases joint.exists_reached plain regular located contained (before.tail required) with
          ⟨target, targetInside, rfl, -⟩
        have targetId := (joint.built target targetInside).hasId
        rw [same inside targetInside (sameId.trans (fileId.symm.trans targetId.symm))]
        exact before.tail required
  · intro reached
    rcases joint.exists_reached plain regular located contained reached with
      ⟨target, targetInside, samePath, reaches⟩
    rwa [(joint.built member inside).hasId, ← samePath, ← (joint.built target targetInside).hasId]

end

/-! ## Chunks of calls -/

/-- The chunk of a call after some calls. -/
def chunkOf? (builder : ModuleBuilder) (calls : List Call) (call : Call) : Option Chunk :=
  (builder.after calls).modules.chunkFor? ⟨call.owner, builder.idOf call.path⟩

/-- A chunk embeds what the files hold that are found from the path of a
call. -/
structure Spells (builder : ModuleBuilder) (world : World) (call : Call) (chunk : Chunk) :
    Prop where
  name : chunk.name = call.owner
  entry : builder.contentsOf world call.path = .ok chunk.entry.contents
  nodup : (chunk.modules.map Module.contents).Nodup
  mem_iff : ∀ contents, contents ∈ chunk.modules.map Module.contents ↔
    ∃ file, Relation.ReflTransGen (builder.RequiresFile world) call.path file ∧
      builder.contentsOf world file = .ok contents

/-- Chunks that embed what is found from one path embed the same. -/
theorem Spells.embedsSame (spells : builder.Spells world call chunk)
    (again : builder.Spells world call other) : chunk.EmbedsSame other := by
  refine ⟨spells.name.trans again.name.symm, ?_, ?_⟩
  · exact Except.ok.inj (spells.entry.symm.trans again.entry)
  · refine (List.perm_ext_iff_of_nodup spells.nodup again.nodup).mpr fun contents => ?_
    rw [spells.mem_iff, again.mem_iff]

/-- After calls with different owners, the chunk of a call to a file embeds what
is found from there. -/
theorem Joint.spells (joint : builder.Joint world Call.owner Call.path calls (builder.after calls))
    (plain : builder.Plain world) (regular : ∀ call ∈ calls, call.Regular world)
    (distinct : (calls.map Call.owner).Nodup) (listed : call ∈ calls)
    (located : world.Locates call.path) :
    ∃ chunk, builder.chunkOf? calls call = some chunk ∧ builder.Spells world call chunk := by
  have contained := joint.contained call listed
  have held : ∃ chunk, builder.chunkOf? calls call = some chunk ∧
      chunk.Holds (builder.after calls).modules ⟨call.owner, builder.idOf call.path⟩ :=
    ModuleTable.chunkFor?_holds contained joint.satisfied
      fun _ inside owned => joint.reaches distinct listed inside owned
  have told : ∀ member ∈ (builder.after calls).modules.modules,
      builder.contentsOf world member.path = .ok member.contents :=
    contents_after fun call listed => (regular call listed).unchanged
  rcases held with ⟨chunk, found, holds⟩
  refine ⟨chunk, found, holds.name, ?_, ?_, ?_⟩
  · rcases ModuleTable.get?_eq_some holds.entry with ⟨inside, sameId⟩
    have samePath := plain.eq_of_idOf_eq (joint.locates plain regular inside) located.absolute
      located.normal (plain.hasNoBackslash located)
      ((joint.built chunk.entry inside).hasId.symm.trans sameId)
    rw [← samePath]
    exact told chunk.entry inside
  · apply List.Nodup.of_map Contents.id
    rw [List.map_map]
    exact holds.nodup
  · intro contents
    constructor
    · intro embedded
      rcases List.mem_map.mp embedded with ⟨member, inChunk, rfl⟩
      rcases (holds.mem_iff member).mp inChunk with ⟨inside, reaches⟩
      exact ⟨member.path, (joint.reaches_iff plain regular located contained inside).mp reaches,
        told member inside⟩
    · rintro ⟨file, reached, held⟩
      rcases joint.exists_reached plain regular located contained reached with
        ⟨member, inside, rfl, reaches⟩
      cases held.symm.trans (told member inside)
      exact List.mem_map_of_mem ((holds.mem_iff member).mpr ⟨inside, reaches⟩)

/-- A call succeeds in any state if its path leads to a file and others were
built together with it. -/
theorem Joint.outcome_ok
    (joint : builder.Joint world Call.owner Call.path calls (builder.after calls))
    (plain : builder.Plain world) (regular : ∀ call ∈ calls, call.Regular world)
    (listed : call ∈ calls) (located : world.Locates call.path) (settled : state.Settled) :
    ∃ first, builder.outcome state call = .ok (some first) := by
  have same := (regular call listed).unchanged
  rcases builder.visits_build state call.owner call.path call.world with
    ⟨reached, result, final, visit, called⟩
  rw [outcome, called]
  cases result with
  | ok done =>
      rcases exists_entry settled visit with ⟨first, found⟩
      exact ⟨first, congrArg Except.ok found⟩
  | error cause =>
      -- what refused to be built is in the table of the joint build
      rcases visit.found_refused rfl with ⟨start, single, file, found, refused⟩
      rw [List.mem_singleton.mp single, builder.requiresFile_congr same] at found
      rw [builder.contentsOf_congr same] at refused
      rcases joint.exists_reached plain regular located (joint.contained call listed) found with
        ⟨member, inside, rfl, -⟩
      have contents := contents_after (fun call listed => (regular call listed).unchanged)
        member inside
      cases refused.symm.trans contents

/-- The path of a single call that succeeded leads to a file. -/
theorem Joint.locates_of_single (joint : builder.Joint world Call.owner Call.path [call] state)
    (plain : builder.Plain world) (regular : call.Regular world) : world.Locates call.path := by
  have allRegular : ∀ other ∈ [call], other.Regular world := by
    intro other listed
    rw [List.mem_singleton.mp listed]
    exact regular
  rcases ModuleTable.contains_iff.mp (joint.contained call List.mem_cons_self) with
    ⟨member, inside, -⟩
  rcases joint.found member inside with ⟨other, single, -, leads⟩
  rw [List.mem_singleton.mp single] at leads
  rcases leads.cases_head with samePath | ⟨next, ⟨finder, finderInside, samePath, -⟩, -⟩
  · rw [samePath]
    exact joint.locates plain allRegular inside
  · rw [← samePath]
    exact joint.locates plain allRegular finderInside

/-- On a builder of their own, none of some calls fails, and their chunks embed
what they embed among all the calls. -/
def Independent (builder : ModuleBuilder) (calls others : List Call) : Prop :=
  builder.Succeeds others ∧ ∀ call ∈ others, ∃ own joint,
    builder.chunkOf? others call = some own ∧ builder.chunkOf? calls call = some joint ∧
      own.EmbedsSame joint

theorem independent_of_locates (plain : builder.Plain world)
    (regular : ∀ call ∈ calls, call.Regular world) (distinct : (calls.map Call.owner).Nodup)
    (succeeds : builder.Succeeds calls) (fewer : others ⊆ calls)
    (othersDistinct : (others.map Call.owner).Nodup)
    (located : ∀ call ∈ others, world.Locates call.path) : builder.Independent calls others := by
  have joint := joint_after (fun call listed => (regular call listed).unchanged) succeeds
  have othersRegular : ∀ call ∈ others, call.Regular world :=
    fun call listed => regular call (fewer listed)
  have othersSucceed : builder.Succeeds others := by
    intro before call rest cut
    have listed : call ∈ others := by
      rw [cut]
      simp
    exact joint.outcome_ok plain regular (fewer listed) (located call listed)
      (builder.sound_after before).settled
  have own := joint_after (fun call listed => (othersRegular call listed).unchanged) othersSucceed
  refine ⟨othersSucceed, fun call listed => ?_⟩
  rcases own.spells plain othersRegular othersDistinct listed (located call listed) with
    ⟨chunk, found, spells⟩
  rcases joint.spells plain regular distinct (fewer listed) (located call listed) with
    ⟨jointChunk, jointFound, jointSpells⟩
  exact ⟨chunk, jointChunk, found, jointFound, spells.embedsSame jointSpells⟩

/-- When entries do not influence each other.  Of some calls none of which
failed, one that is made alone succeeds, with a chunk that embeds the same,
exactly if its path leads to a file, as it does if it has no backslash.  And
whichever of the calls whose paths lead to files are made, in whatever order,
all of them succeed with chunks that embed the same. -/
theorem builds_independent_iff (builder : ModuleBuilder) (world : World) (calls : List Call)
    (plain : builder.Plain world) (regular : ∀ call ∈ calls, call.Regular world)
    (distinct : (calls.map Call.owner).Nodup) (succeeds : builder.Succeeds calls) :
    (∀ call ∈ calls,
      (builder.Independent calls [call] ↔
          world.tree.isFile world.workingDirectory call.path = true) ∧
        ('\\' ∉ call.path.characters →
          world.tree.isFile world.workingDirectory call.path = true)) ∧
      ∀ others ⊆ calls, (others.map Call.owner).Nodup →
        (∀ call ∈ others, world.tree.isFile world.workingDirectory call.path = true) →
          builder.Independent calls others := by
  have locates {call : Call} (listed : call ∈ calls)
      (isFile : world.tree.isFile world.workingDirectory call.path = true) :
      world.Locates call.path :=
    ⟨(regular call listed).absolute, (regular call listed).normal, FileTree.isFile_iff.mp isFile⟩
  have independent {others : List Call} (fewer : others ⊆ calls)
      (othersDistinct : (others.map Call.owner).Nodup)
      (areFiles : ∀ call ∈ others, world.tree.isFile world.workingDirectory call.path = true) :
      builder.Independent calls others :=
    independent_of_locates plain regular distinct succeeds fewer othersDistinct
      fun call listed => locates (fewer listed) (areFiles call listed)
  refine ⟨fun call listed => ⟨⟨?_, ?_⟩, ?_⟩, fun others => independent⟩
  · rintro ⟨alone, -⟩
    have unchanged : ∀ other ∈ [call], other.world.SameFiles world := by
      simpa using (regular call listed).unchanged
    have single := joint_after unchanged alone
    exact FileTree.isFile_iff.mpr
      (single.locates_of_single plain (regular call listed)).leads
  · intro isFile
    exact independent (by simpa using listed) (by simp) (by simpa using isFile)
  · intro noBackslash
    have joint := joint_after (fun call listed => (regular call listed).unchanged) succeeds
    rcases joint.exists_module plain regular (regular call listed).absolute
      (regular call listed).normal (Path.hasNoBackslash_of_not_mem noBackslash)
      (joint.contained call listed) with ⟨member, inside, samePath⟩
    rw [← samePath]
    exact FileTree.isFile_iff.mpr (joint.locates plain regular inside).leads

/-- A file in a directory. -/
def nestedWorld : World where
  tree := ⟨[(["work"], .directory), (["work", "a"], .directory),
    (["work", "a", "b.js"], .file "exports.v = 1;".toUTF8)]⟩
  workingDirectory := ["work"]
  journal := []

def nestedCall : Call :=
  ⟨"first", ⟨"/work/a/b.js"⟩, nestedWorld⟩

/-- A path that leads to no file, with the identifier of the file. -/
def backslashCall : Call :=
  ⟨"second", ⟨"/work/a\\b.js"⟩, nestedWorld⟩

def nestedModule : Module where
  id := "./a/b.js"
  owner := "first"
  path := ⟨"/work/a/b.js"⟩
  source := "exports.v = 1;\n"
  dependencies := []
  requires := []

theorem plain_nested : plainBuilder.Plain nestedWorld where
  rootAbsolute := by decide
  rootNormal := by decide +kernel
  extensions := by decide
  names := by decide +kernel

theorem regular_nested : ∀ call ∈ [nestedCall, backslashCall], call.Regular nestedWorld := by
  intro call listed
  rcases List.mem_pair.mp listed with rfl | rfl
  · exact ⟨.refl _, by decide, by decide +kernel⟩
  · exact ⟨.refl _, by decide, by decide +kernel⟩

theorem succeeds_nested : plainBuilder.Succeeds [nestedCall, backslashCall] := by
  have nothing : plainBuilder.Succeeds [] := by
    intro before call rest cut
    simp at cut
  have first : plainBuilder.Succeeds ([] ++ [nestedCall]) :=
    succeeds_append_singleton_iff.mpr ⟨nothing, nestedModule, by decide +kernel⟩
  exact succeeds_append_singleton_iff.mpr ⟨first, nestedModule, by decide +kernel⟩

/-- The call to the file is independent of the other, which is not independent
of it. -/
theorem builds_independent_iff_nested :
    plainBuilder.Independent [nestedCall, backslashCall] [nestedCall] ∧
      ¬ plainBuilder.Independent [nestedCall, backslashCall] [backslashCall] := by
  rcases builds_independent_iff plainBuilder nestedWorld [nestedCall, backslashCall] plain_nested
    regular_nested (by decide) succeeds_nested with ⟨alone, -⟩
  refine ⟨(alone nestedCall (by simp)).1.mpr (by decide +kernel), ?_⟩
  intro independent
  exact absurd ((alone backslashCall (by simp)).1.mp independent) (by decide +kernel)

/-- Two entries of which none fails when they are built together, and of which
one cannot be read when it is built alone. -/
theorem backslash_entry_needs_other :
    plainBuilder.Plain nestedWorld ∧
      (∀ call ∈ [nestedCall, backslashCall], call.Regular nestedWorld) ∧
      ([nestedCall, backslashCall].map Call.owner).Nodup ∧
      plainBuilder.Succeeds [nestedCall, backslashCall] ∧
      plainBuilder.outcome .start backslashCall = .error (.read ⟨"/work/a\\b.js"⟩ .notFound) ∧
      ¬ ∀ call ∈ [nestedCall, backslashCall],
        plainBuilder.Independent [nestedCall, backslashCall] [call] := by
  have refused : plainBuilder.outcome .start backslashCall =
      .error (.read ⟨"/work/a\\b.js"⟩ .notFound) := by
    decide +kernel
  refine ⟨plain_nested, regular_nested, by decide, succeeds_nested, refused, ?_⟩
  intro independent
  rcases (independent backslashCall (by simp)).1 [] backslashCall [] rfl with ⟨first, returned⟩
  cases refused.symm.trans returned

end ModuleBuilder

end ScriptBundle
