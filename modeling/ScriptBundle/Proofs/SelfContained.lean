import ScriptBundle.Proofs.Reach
import ScriptBundle.Proofs.Run

/-!
# Self-contained bundles

A module is in the chunk of an entry if it bears the entry's name or if it is
reached from the entry's module.  The first test adds nothing to the second:
whatever bears the name of an entry was found from its module.  And since
everything required is built, no bundle requires what it does not hold.
-/

namespace ScriptBundle

/-- A chunk holds the modules that are reached from the module of an entry. -/
structure Chunk.Holds (chunk : Chunk) (table : ModuleTable) (point : EntryPoint) : Prop where
  name : chunk.name = point.name
  entry : table.get? point.id = some chunk.entry
  /-- The modules are in build order. -/
  ordered : chunk.modules.Sublist table.modules
  nodup : (chunk.modules.map Module.id).Nodup
  mem_iff : ∀ member,
    member ∈ chunk.modules ↔ member ∈ table.modules ∧ table.Reaches point.id member.id
  /-- Nothing is required that is not there. -/
  closed : ∀ member ∈ chunk.modules, ∀ id ∈ member.requires, ∃ other ∈ chunk.modules, other.id = id

namespace ModuleTable

variable {table : ModuleTable}

/-- The chunk of an entry, where the name of the entry tells no more than what
is reached. -/
theorem chunkFor?_holds {point : EntryPoint} (contained : table.contains point.id = true)
    (satisfied : ∀ member ∈ table.modules, ModuleBuilder.Satisfied table member)
    (owned : ∀ member ∈ table.modules, member.owner = point.name →
      table.Reaches point.id member.id) :
    ∃ chunk, table.chunkFor? point = some chunk ∧ chunk.Holds table point := by
  rcases chunkFor?_collects contained with ⟨chunk, assembled, collects⟩
  have mem_iff : ∀ member : Module,
      member ∈ chunk.modules ↔ member ∈ table.modules ∧ table.Reaches point.id member.id := by
    intro member
    rw [collects.mem_iff]
    exact and_congr_right fun inside => or_iff_right_of_imp (owned member inside)
  refine ⟨chunk, assembled, collects.name, collects.entry, collects.ordered, collects.nodup,
    mem_iff, ?_⟩
  intro member listed id needed
  rcases (mem_iff member).mp listed with ⟨inside, reaches⟩
  rcases contains_iff.mp (satisfied member inside id needed) with ⟨other, otherInside, rfl⟩
  exact ⟨other, (mem_iff other).mpr
    ⟨otherInside, reaches.tail ⟨member, inside, rfl, needed⟩⟩, rfl⟩

theorem forall₂_chunksOf {points : List EntryPoint}
    (held : ∀ point ∈ points,
      ∃ chunk, table.chunkFor? point = some chunk ∧ chunk.Holds table point) :
    List.Forall₂ (fun point chunk => Chunk.Holds chunk table point) points
      (table.chunksOf points) := by
  induction points with
  | nil => exact .nil
  | cons point rest induction =>
      rcases held point List.mem_cons_self with ⟨chunk, found, holds⟩
      rw [chunksOf, List.filterMap_cons_some found]
      exact .cons holds (induction fun other listed => held other (List.mem_cons_of_mem _ listed))

end ModuleTable

namespace Bundler

variable {bundler : Bundler} {world final : World}

/-- What bears the name of an entry is reached from the entry. -/
theorem Progress.reaches {entries : List (String × String)} {state : BuildState}
    {points : List EntryPoint} (progress : bundler.Progress world entries (state, points))
    (distinct : (entries.map Prod.fst).Nodup) {entry : String × String} (listed : entry ∈ entries)
    {member : Module} (inside : member ∈ state.modules.modules) (owned : member.owner = entry.1) :
    state.modules.Reaches (bundler.pointOf entry).id member.id := by
  rcases progress_iff_joint.mp progress with ⟨joint, -⟩
  exact joint.reaches distinct listed inside owned

/-- Every entry whose modules were built has its chunk. -/
theorem Progress.forall₂_chunks {state : BuildState} {points : List EntryPoint}
    (progress : bundler.Progress world bundler.config.entries.toList (state, points)) :
    List.Forall₂ (fun entry chunk => Chunk.Holds chunk state.modules (bundler.pointOf entry))
      bundler.config.entries.toList (state.modules.chunksOf points) := by
  have points_eq : points = bundler.config.entries.toList.map bundler.pointOf := progress.points
  rw [points_eq]
  refine List.forall₂_map_left_iff.mp (ModuleTable.forall₂_chunksOf fun point member => ?_)
  rcases List.mem_map.mp member with ⟨entry, listed, rfl⟩
  refine ModuleTable.chunkFor?_holds (progress.contained entry listed) progress.satisfied ?_
  intro member inside owned
  exact progress.reaches (Entries.nodup_names _) listed inside owned

/-- Every bundle of a run that succeeds is made of exactly the modules that its
entry reaches, each once and in build order, and requires no other. -/
theorem run_selfContained {result : BuildResult}
    (succeeded : bundler.run world = (.ok result, final)) :
    List.Forall₂ (fun entry chunk => Chunk.Holds chunk result.modules (bundler.pointOf entry))
        bundler.config.entries.toList (result.assets.map Asset.chunk) ∧
      ∀ asset ∈ result.assets, asset.text = asset.chunk.bundle := by
  rcases run_ok succeeded with ⟨state, modules, progress, chunks, texts⟩
  refine ⟨?_, texts⟩
  rw [chunks, ← modules]
  refine List.forall₂_map_left_iff.mp (ModuleTable.forall₂_chunksOf fun point member => ?_)
  rcases List.mem_map.mp member with ⟨entry, listed, rfl⟩
  refine ModuleTable.chunkFor?_holds (progress.contained entry listed) progress.satisfied ?_
  intro member inside owned
  exact progress.reaches (Entries.nodup_names _) listed inside owned

/-- Three modules, two of which require each other; the third requires one of
these. -/
def sharedWorld : World where
  tree := ⟨[(["work"], .directory),
    (["work", "a.js"], .file "require('./c');".toUTF8),
    (["work", "b.js"], .file "require('./c');".toUTF8),
    (["work", "c.js"], .file "require('./a');".toUTF8)]⟩
  workingDirectory := ["work"]
  journal := []

def sharedBundler : Bundler where
  config := { Config.default with
    entries := .named (.ofPairs [("first", "./a.js"), ("second", "./b.js")]) }
  context := ⟨"/work"⟩
  pipeline := ⟨[]⟩
  taps := .none

/-- The modules of the first entry are built once, and its bundle is as complete
as that of the second. -/
theorem run_selfContained_shared :
    ∃ result final, sharedBundler.run sharedWorld = (.ok result, final) ∧
      result.modules.ids = ["./a.js", "./c.js", "./b.js"] ∧
      List.Forall₂
        (fun entry chunk => Chunk.Holds chunk result.modules (sharedBundler.pointOf entry))
        sharedBundler.config.entries.toList (result.assets.map Asset.chunk) := by
  have evaluated : ((sharedBundler.run sharedWorld).1.map fun result =>
      result.modules.ids).toOption = some ["./a.js", "./c.js", "./b.js"] := by
    decide +kernel
  rcases ran : sharedBundler.run sharedWorld with ⟨cause | result, final⟩
  · rw [ran] at evaluated
    cases evaluated
  · rw [ran] at evaluated
    exact ⟨result, final, rfl, Option.some.inj evaluated, (run_selfContained ran).1⟩

end Bundler

end ScriptBundle
