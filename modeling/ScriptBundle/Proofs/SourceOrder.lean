import Mathlib.Order.Lattice.Nat
import ScriptBundle.Proofs.Rewriting

/-!
# The order of the text

The modules that a script requires are listed in the order in which its
dependencies are visited.  This is the order in which they stand in the text,
except for a `do` loop, whose condition is visited before its body, and for a
class, whose members are visited before what it extends: dependencies in two
such parts are turned.

So the list is in the order of the text exactly if no turn shows: of two turned
dependencies, the module of one was named before, in one order or the other.
-/

namespace ScriptBundle

theorem eraseDups_map_cons {Site : Type} (valueOf : Site → String) (site : Site)
    (rest : List Site) :
    ((site :: rest).map valueOf).eraseDups =
      valueOf site :: ((rest.filter (valueOf · != valueOf site)).map valueOf).eraseDups := by
  rw [List.map_cons, List.eraseDups_cons, List.filter_map]
  rfl

/-- Of two values, each kept at its first occurrence, the one comes before the
other if it occurs before all occurrences of the other. -/
theorem pair_sublist_eraseDups_iff {Site : Type} {before : Site → Site → Prop}
    (asymmetric : ∀ site other, before site other → ¬ before other site)
    (valueOf : Site → String) {sites : List Site} (ordered : sites.Pairwise before)
    {value later : String} :
    [value, later].Sublist (sites.map valueOf).eraseDups ↔
      value ≠ later ∧ (∃ site ∈ sites, valueOf site = later) ∧
        ∃ site ∈ sites, valueOf site = value ∧
          ∀ other ∈ sites, valueOf other = later → before site other := by
  match sites with
  | [] => simp
  | first :: rest =>
      rcases List.pairwise_cons.mp ordered with ⟨ahead, restOrdered⟩
      have others : ∀ site, site ∈ rest.filter (valueOf · != valueOf first) ↔
          site ∈ rest ∧ valueOf site ≠ valueOf first := by
        simp
      rw [eraseDups_map_cons]
      by_cases same : value = valueOf first
      · -- the first site comes before all others
        subst same
        rw [List.cons_sublist_cons, List.singleton_sublist, List.mem_eraseDups, List.mem_map]
        simp only [others]
        grind
      · have inRest : ∀ values : List String,
            [value, later].Sublist (valueOf first :: values) ↔ [value, later].Sublist values := by
          intro values
          rw [List.sublist_cons_iff]
          grind
        rw [inRest, pair_sublist_eraseDups_iff asymmetric valueOf (restOrdered.filter _)]
        simp only [others]
        grind
termination_by sites.length
decreasing_by exact Nat.lt_succ_of_le (List.length_filter_le _ rest)

namespace Script

theorem related_of_pairwise {parts : List Node} {related : Node → Node → Prop}
    (ordered : parts.Pairwise related) {index number : Nat} {part other : Node}
    (before : index < number) (listed : parts[index]? = some part)
    (otherListed : parts[number]? = some other) : related part other := by
  rcases List.getElem?_eq_some_iff.mp listed with ⟨inside, rfl⟩
  rcases List.getElem?_eq_some_iff.mp otherListed with ⟨otherInside, rfl⟩
  exact List.pairwise_iff_getElem.mp ordered index number inside otherInside before

/-- The part at a number is visited before later parts but stands behind them:
that is so in a `do` loop, and in a class behind its name. -/
def Kind.TurnsAt (kind : Kind) (index : Nat) : Prop :=
  kind = .doStatement ∨ kind = .classLike ∧ 0 < index

theorem Kind.related_of_inText {kind : Kind} {parts : List Node} {related : Node → Node → Prop}
    (ordered : (kind.inText parts).Pairwise related) {index number : Nat} {part other : Node}
    (before : index < number) (listed : parts[index]? = some part)
    (otherListed : parts[number]? = some other) :
    kind.TurnsAt index ∧ related other part ∨ ¬ kind.TurnsAt index ∧ related part other := by
  by_cases isLoop : kind = .doStatement
  · rw [inText, if_pos isLoop, List.pairwise_reverse] at ordered
    exact .inl ⟨.inl isLoop, related_of_pairwise ordered before listed otherListed⟩
  by_cases isClass : kind = .classLike
  · rw [inText, if_neg isLoop, if_pos isClass, List.pairwise_append, List.pairwise_reverse]
      at ordered
    rcases ordered with ⟨-, behindName, afterName⟩
    rcases Nat.exists_eq_add_of_le (Nat.one_le_of_lt before) with ⟨number, rfl⟩
    rw [← List.getElem?_drop] at otherListed
    cases index with
    | zero =>
        refine .inr ⟨?_, ?_⟩
        · rintro (sameKind | ⟨-, behind⟩)
          · exact isLoop sameKind
          · exact Nat.lt_irrefl 0 behind
        · apply afterName
          · exact List.mem_of_getElem? ((List.getElem?_take_of_lt Nat.one_pos).trans listed)
          · exact List.mem_reverse.mpr (List.mem_of_getElem? otherListed)
    | succ index =>
        rw [Nat.add_comm index, ← List.getElem?_drop] at listed
        have inRest : index < number := by omega
        exact .inl ⟨.inr ⟨isClass, Nat.succ_pos index⟩,
          related_of_pairwise behindName inRest listed otherListed⟩
  · rw [inText, if_neg isLoop, if_neg isClass] at ordered
    refine .inr ⟨?_, related_of_pairwise ordered before listed otherListed⟩
    rintro (sameKind | ⟨sameKind, -⟩)
    · exact isLoop sameKind
    · exact isClass sameKind

namespace Node

variable {tree node otherNode part : Node} {position other : List Nat}

theorem IsPlaced.inside (placed : tree.IsPlaced) {index : Nat}
    (listed : tree.parts[index]? = some part) : part.IsPlaced := by
  intro position node found
  apply placed (index :: position)
  rw [at?, listed]
  exact found

/-- Whatever holds a node that is there is there itself. -/
theorem IsPlaced.present (placed : tree.IsPlaced) (found : tree.at? position = some node)
    (present : node.isAbsent = false) : tree.isAbsent = false := by
  cases position with
  | nil =>
      cases found
      exact present
  | cons index rest =>
      rw [isAbsent, decide_eq_false_iff_not]
      intro missing
      rw [at?, (placed [] tree rfl).empty missing] at found
      cases found

/-- A node stands within every node that it is inside of. -/
theorem IsPlaced.within (placed : tree.IsPlaced) (found : tree.at? position = some node)
    (present : node.isAbsent = false) : tree.start ≤ node.start ∧ node.finish ≤ tree.finish := by
  induction position generalizing tree with
  | nil =>
      cases found
      exact ⟨Nat.le_refl _, Nat.le_refl _⟩
  | cons index rest induction =>
      rcases tree with ⟨kind, start, finish, parts⟩
      rw [at?_cons] at found
      rcases Option.bind_eq_some_iff.mp found with ⟨part, listed, deeper⟩
      have partPlaced := placed.inside listed
      have bounds := (placed [] _ rfl).rise.bounds
        (Kind.mem_inText.mpr (List.mem_of_getElem? listed)) (partPlaced.present deeper present)
      have inside := induction partPlaced deeper
      exact ⟨Nat.le_trans bounds.1 inside.1, Nat.le_trans inside.2 bounds.2.2⟩

/-! ## Turned positions -/

/-- Two positions of a tree part in a node that turns its parts.  The position
that is visited first comes first. -/
inductive Turned : Node → List Nat → List Nat → Prop where
  | here {kind : Kind} {start finish index number : Nat} {parts : List Node}
      {rest more : List Nat} (turns : kind.TurnsAt index) (before : index < number) :
      Turned (.mk kind start finish parts) (index :: rest) (number :: more)
  | inside {kind : Kind} {start finish index : Nat} {parts : List Node} {part : Node}
      {rest more : List Nat} (listed : parts[index]? = some part)
      (deeper : Turned part rest more) :
      Turned (.mk kind start finish parts) (index :: rest) (index :: more)

theorem turned_iff_of_lt {kind : Kind} {start finish index number : Nat} {parts : List Node}
    {rest more : List Nat} (before : index < number) :
    Turned (.mk kind start finish parts) (index :: rest) (number :: more) ↔
      kind.TurnsAt index := by
  refine ⟨fun turned => ?_, fun turns => .here turns before⟩
  cases turned with
  | here turns _ => exact turns
  | inside _ _ => exact absurd before (Nat.lt_irrefl _)

theorem turned_inside_iff {kind : Kind} {start finish index : Nat} {parts : List Node}
    {rest more : List Nat} (listed : parts[index]? = some part) :
    Turned (.mk kind start finish parts) (index :: rest) (index :: more) ↔
      part.Turned rest more := by
  refine ⟨fun turned => ?_, .inside listed⟩
  cases turned with
  | here _ before => exact absurd before (Nat.lt_irrefl _)
  | inside again deeper =>
      cases listed.symm.trans again
      exact deeper

/-- Of two nodes, neither of which is inside the other, the one that is visited
first stands first in the text, unless they are turned. -/
theorem IsPlaced.turned_or_ordered (placed : tree.IsPlaced)
    (found : tree.at? position = some node) (present : node.isAbsent = false)
    (otherFound : tree.at? other = some otherNode) (otherPresent : otherNode.isAbsent = false)
    (apart : ∀ rest, position ++ rest ≠ other) (before : position < other) :
    tree.Turned position other ∧ otherNode.finish ≤ node.start ∨
      ¬ tree.Turned position other ∧ node.finish ≤ otherNode.start := by
  induction position generalizing tree other with
  | nil => exact absurd rfl (apart other)
  | cons index rest induction =>
      rcases tree with ⟨kind, start, finish, parts⟩
      cases other with
      | nil => cases before
      | cons number more =>
          rw [at?_cons] at found otherFound
          rcases Option.bind_eq_some_iff.mp found with ⟨part, listed, deeper⟩
          rcases Option.bind_eq_some_iff.mp otherFound with ⟨otherPart, otherListed, otherDeeper⟩
          have partPlaced := placed.inside listed
          have otherPlaced := placed.inside otherListed
          rcases List.cons_lt_cons_iff.mp before with further | ⟨rfl, later⟩
          · -- the positions part here, so the parts tell the order
            rw [turned_iff_of_lt further]
            have within := partPlaced.within deeper present
            have otherWithin := otherPlaced.within otherDeeper otherPresent
            have partPresent := partPlaced.present deeper present
            have otherPartPresent := otherPlaced.present otherDeeper otherPresent
            rcases Kind.related_of_inText (placed [] _ rfl).rise.pairwise further listed
                otherListed with ⟨turns, behind⟩ | ⟨keeps, ahead⟩
            · have stands := behind otherPartPresent partPresent
              exact .inl ⟨turns, by omega⟩
            · have stands := ahead partPresent otherPartPresent
              exact .inr ⟨keeps, by omega⟩
          · -- they part further inside the same part
            cases listed.symm.trans otherListed
            rw [turned_inside_iff listed]
            apply induction partPlaced deeper otherDeeper ?_ later
            intro tail same
            exact apart tail (congrArg (index :: ·) same)

/-! ## References -/

variable {idFor? : String → Option String} {id otherId : String} {start otherStart : Nat}

theorem IsDependency.kind_eq {specifier : String} (depends : node.IsDependency specifier) :
    node.kind = .call false := by
  cases depends
  rfl

theorem IsDependency.present {specifier : String} (depends : node.IsDependency specifier) :
    node.isAbsent = false := by
  cases depends
  rfl

/-- At a position stands a dependency on a module, and starts at a place of the
text. -/
def RefersAt (tree : Node) (idFor? : String → Option String) (position : List Nat) (id : String)
    (start : Nat) : Prop :=
  ∃ node specifier, tree.at? position = some node ∧ node.IsDependency specifier ∧
    idFor? specifier = some id ∧ node.start = start

theorem RefersAt.unique (refers : tree.RefersAt idFor? position id start)
    (again : tree.RefersAt idFor? position otherId otherStart) :
    id = otherId ∧ start = otherStart := by
  rcases refers with ⟨node, specifier, found, depends, named, rfl⟩
  rcases again with ⟨_, _, foundAgain, dependsAgain, namedAgain, rfl⟩
  cases found.symm.trans foundAgain
  cases depends
  cases dependsAgain
  exact ⟨Option.some.inj (named.symm.trans namedAgain), rfl⟩

/-- Of two references, the one that is visited first starts first in the text,
unless they are turned. -/
theorem IsPlaced.references_turned_or_ordered (placed : tree.IsPlaced)
    (refers : tree.RefersAt idFor? position id start)
    (otherRefers : tree.RefersAt idFor? other otherId otherStart) (before : position < other) :
    tree.Turned position other ∧ otherStart < start ∨
      ¬ tree.Turned position other ∧ start < otherStart := by
  rcases refers with ⟨node, specifier, found, depends, -, rfl⟩
  rcases otherRefers with ⟨otherNode, otherSpecifier, otherFound, otherDepends, -, rfl⟩
  have apart : ∀ rest, position ++ rest ≠ other := by
    rintro rest rfl
    have visited := placed.isWritten.isPlain.visitedAt_iff.mpr
      ⟨otherNode, otherFound, otherDepends⟩
    apply visited.outermost position rest node specifier rfl ?_ found depends
    rintro rfl
    exact List.lt_irrefl _ (List.append_nil position ▸ before)
  have filled := (placed _ _ found).filled depends.kind_eq
  have otherFilled := (placed _ _ otherFound).filled otherDepends.kind_eq
  rcases placed.turned_or_ordered found depends.present otherFound otherDepends.present apart
      before with ⟨turned, stands⟩ | ⟨straight, stands⟩
  · exact .inl ⟨turned, by omega⟩
  · exact .inr ⟨straight, by omega⟩

/-- The places of the text where references to a module start. -/
def standings (tree : Node) (idFor? : String → Option String) (id : String) : Set Nat :=
  { start | ∃ position, tree.RefersAt idFor? position id start }

/-- The modules stand in the order of the first references to them in the text. -/
def InSourceOrder (tree : Node) (idFor? : String → Option String) (ids : List String) : Prop :=
  ids.Pairwise fun id later => ∃ start laterStart,
    IsLeast (tree.standings idFor? id) start ∧ IsLeast (tree.standings idFor? later) laterStart ∧
      start < laterStart

/-- No turn shows: wherever references to two modules are turned, another
reference is visited before both of them and names the module of the second, or
stands before both of them and names the module of the first. -/
def CoversTurns (tree : Node) (idFor? : String → Option String) : Prop :=
  ∀ position id start later laterId laterStart,
    tree.RefersAt idFor? position id start → tree.RefersAt idFor? later laterId laterStart →
      tree.Turned position later → id ≠ laterId →
        (∃ earlier place, tree.RefersAt idFor? earlier laterId place ∧ earlier < position) ∨
          ∃ earlier place, tree.RefersAt idFor? earlier id place ∧ place < laterStart

/-- Modules in the order of their first references in the tree are in the order
of the text exactly if the tree covers its turns. -/
theorem IsPlaced.inSourceOrder_iff (placed : tree.IsPlaced) {ids : List String}
    (listed : ∀ first second, [first, second].Sublist ids ↔ first ≠ second ∧
      (∃ position start, tree.RefersAt idFor? position second start) ∧
        ∃ position start, tree.RefersAt idFor? position first start ∧
          ∀ later laterStart, tree.RefersAt idFor? later second laterStart → position < later) :
    tree.InSourceOrder idFor? ids ↔ tree.CoversTurns idFor? := by
  constructor
  · intro ordered position id start later laterId laterStart refers laterRefers _ different
    apply or_iff_not_imp_left.mpr
    intro noneVisited
    have visitedFirst : ∀ other otherStart, tree.RefersAt idFor? other laterId otherStart →
        position < other := by
      intro other otherStart otherRefers
      rcases Std.lt_trichotomy position other with before | rfl | after
      · exact before
      · exact absurd (refers.unique otherRefers).1 different
      · exact absurd ⟨other, otherStart, otherRefers, after⟩ noneVisited
    have sublist := (listed id laterId).mpr ⟨different, ⟨later, laterStart, laterRefers⟩,
      position, start, refers, visitedFirst⟩
    rcases List.pairwise_iff_forall_sublist.mp ordered sublist with
      ⟨first, second, ⟨⟨earlier, firstRefers⟩, -⟩, least, inOrder⟩
    exact ⟨earlier, first, firstRefers, Nat.lt_of_lt_of_le inOrder (least.2 ⟨later, laterRefers⟩)⟩
  · intro covers
    apply List.pairwise_iff_forall_sublist.mpr
    intro id later sublist
    rcases (listed id later).mp sublist with
      ⟨different, ⟨somewhere, place, placeRefers⟩, position, start, refers, visitedFirst⟩
    have firstLeast : IsLeast (tree.standings idFor? id) _ :=
      isLeast_csInf ⟨start, position, refers⟩
    have laterLeast : IsLeast (tree.standings idFor? later) _ :=
      isLeast_csInf ⟨place, somewhere, placeRefers⟩
    refine ⟨_, _, firstLeast, laterLeast, ?_⟩
    rcases laterLeast.1 with ⟨other, otherRefers⟩
    have before := visitedFirst other _ otherRefers
    rcases placed.references_turned_or_ordered refers otherRefers before with
        ⟨turned, -⟩ | ⟨-, stands⟩
    · rcases covers _ _ _ _ _ _ refers otherRefers turned different with
          ⟨earlier, earlierStart, earlierRefers, visited⟩ |
          ⟨earlier, earlierStart, earlierRefers, stands⟩
      · exact absurd visited (List.lt_asymm (visitedFirst earlier earlierStart earlierRefers))
      · exact Nat.lt_of_le_of_lt (firstLeast.2 ⟨earlier, earlierRefers⟩) stands
    · exact Nat.lt_of_le_of_lt (firstLeast.2 ⟨position, refers⟩) stands

theorem exists_refersAt_iff : (∃ start, tree.RefersAt idFor? position id start) ↔
    ∃ specifier, tree.DependsAt position specifier ∧ idFor? specifier = some id := by
  constructor
  · rintro ⟨_, node, specifier, found, depends, named, -⟩
    exact ⟨specifier, ⟨node, found, depends⟩, named⟩
  · rintro ⟨specifier, ⟨node, found, depends⟩, named⟩
    exact ⟨node.start, node, specifier, found, depends, named, rfl⟩

/-- The modules of the dependencies of a tree, each at its first, are in the
order of their first references. -/
theorem Visits.pair_sublist_iff {sites : List (List Nat × String)} (visits : tree.Visits sites)
    {ids : List String} (named : sites.map (fun site => idFor? site.2) = ids.map some)
    (first second : String) :
    [first, second].Sublist ids.eraseDups ↔ first ≠ second ∧
      (∃ position start, tree.RefersAt idFor? position second start) ∧
        ∃ position start, tree.RefersAt idFor? position first start ∧
          ∀ later laterStart, tree.RefersAt idFor? later second laterStart → position < later := by
  let valueOf (site : List Nat × String) : String := (idFor? site.2).getD ""
  have whole : ids = sites.map valueOf := by
    have values := congrArg (List.map (Option.getD · "")) named
    rw [List.map_map, List.map_map] at values
    exact (values.trans (List.map_id ids)).symm
  have naming : ∀ site ∈ sites, idFor? site.2 = some (valueOf site) := by
    intro site listed
    have image := List.mem_map_of_mem (f := fun site => idFor? site.2) listed
    rw [named] at image
    rcases List.mem_map.mp image with ⟨id, -, told⟩
    rw [← told]
    exact congrArg some (congrArg (Option.getD · "") told)
  have refers : ∀ position id, (∃ start, tree.RefersAt idFor? position id start) ↔
      ∃ site ∈ sites, site.1 = position ∧ valueOf site = id := by
    intro position id
    rw [exists_refersAt_iff]
    constructor
    · rintro ⟨specifier, depends, told⟩
      refine ⟨(position, specifier), (visits.mem_iff position specifier).mpr depends, rfl, ?_⟩
      exact congrArg (Option.getD · "") told
    · rintro ⟨⟨_, specifier⟩, listed, rfl, rfl⟩
      exact ⟨specifier, (visits.mem_iff _ specifier).mp listed, naming _ listed⟩
  rw [whole, pair_sublist_eraseDups_iff (fun _ _ => List.lt_asymm) valueOf visits.ordered]
  refine and_congr_right fun _ => and_congr ?_ ?_
  · constructor
    · rintro ⟨site, listed, same⟩
      exact ⟨site.1, (refers site.1 second).mpr ⟨site, listed, rfl, same⟩⟩
    · rintro ⟨position, stands⟩
      rcases (refers position second).mp stands with ⟨site, listed, -, same⟩
      exact ⟨site, listed, same⟩
  · constructor
    · rintro ⟨site, listed, same, ahead⟩
      rcases (refers site.1 first).mpr ⟨site, listed, rfl, same⟩ with ⟨start, siteRefers⟩
      refine ⟨site.1, start, siteRefers, ?_⟩
      intro later laterStart laterRefers
      rcases (refers later second).mp ⟨laterStart, laterRefers⟩ with ⟨other, inSites, rfl, named⟩
      exact ahead other inSites named
    · rintro ⟨position, start, positionRefers, ahead⟩
      rcases (refers position first).mp ⟨start, positionRefers⟩ with ⟨site, listed, rfl, same⟩
      refine ⟨site, listed, same, ?_⟩
      intro other inSites named
      rcases (refers other.1 second).mpr ⟨other, inSites, rfl, named⟩ with ⟨place, otherRefers⟩
      exact ahead other.1 place otherRefers

end Node

end Script

theorem References.Collected.map_dependencies {identify : Path → String} {known : String → Bool}
    {files : List Path} {references : References}
    (collected : References.Collected identify known files references) :
    references.dependencies.map identify = references.requires.filter (!known ·) := by
  have same : List.Forall₂ Eq (references.requires.filter (!known ·))
      (references.dependencies.map identify) := by
    apply List.forall₂_map_right_iff.mpr
    apply collected.dependencies.imp
    intro id file found
    have leads := List.find?_some found
    exact (of_decide_eq_true leads).symm
  rw [List.forall₂_eq_eq_eq] at same
  exact same.symm

namespace Linker

/-- A script that is linked lists the modules that it requires, and those of them
that were not known, in the order in which the text refers to them first,
exactly if its tree covers its turns.  Either way the modules that were not
known are in the order in which they are required. -/
theorem link_inSourceOrder_iff {linker : Linker} {known : String → Bool} {path : Path}
    {source : String} {world : World} {linked : LinkedModule}
    (ran : (linker.link known path source world).1 = .ok linked) :
    ∃ program, Script.Program.read? source = some program ∧
      (program.tree.InSourceOrder (linker.idFor? world path.directory)
            linked.references.requires ∧
          program.tree.InSourceOrder (linker.idFor? world path.directory)
            (linked.references.dependencies.map (Path.identifier linker.root)) ↔
        program.tree.CoversTurns (linker.idFor? world path.directory)) ∧
      linked.references.dependencies.map (Path.identifier linker.root) =
        linked.references.requires.filter (!known ·) := by
  have exact := (linker.link_exact known path source world).1
  cases read : Script.Program.read? source with
  | none =>
      rw [read, ran] at exact
      cases exact
  | some program =>
      rw [read] at exact
      rcases exact with ⟨sites, visits, rewrites⟩
      rw [ran] at rewrites
      rcases rewrites with ⟨files, rewrites⟩
      have placed := Script.Program.read?_isPlaced read
      have unknown := rewrites.references.map_dependencies
      have named : sites.map (fun site => linker.idFor? world path.directory site.2) =
          (files.map (Path.identifier linker.root)).map some := by
        have found := congrArg (List.map (Option.map (Path.identifier linker.root))) rewrites.found
        rw [List.map_map, List.map_map] at found
        rw [List.map_map]
        exact found
      have ordered := placed.inSourceOrder_iff (visits.pair_sublist_iff named)
      refine ⟨program, rfl, ?_, unknown⟩
      rw [unknown, rewrites.references.requires, ← ordered]
      exact ⟨And.left, fun inOrder => ⟨inOrder, inOrder.filter _⟩⟩

def loopSource : String :=
  "do \x7b require('./a') \x7d while (require('./b'))"

def loopWorld : World where
  tree := ⟨[(["work"], .directory),
    (["work", "index.js"], .file loopSource.toUTF8),
    (["work", "a.js"], .file "".toUTF8),
    (["work", "b.js"], .file "".toUTF8)]⟩
  workingDirectory := ["work"]
  journal := []

def loopPath : Path :=
  ⟨"/work/index.js"⟩

def loopLinker : Linker :=
  ⟨⟨"/work"⟩, [".js"]⟩

theorem link_loop :
    ∃ linked, (loopLinker.link (fun _ => false) loopPath loopSource loopWorld).1 = .ok linked ∧
      linked.references = ⟨[⟨"/work/b.js"⟩, ⟨"/work/a.js"⟩], ["./b.js", "./a.js"]⟩ := by
  have evaluated :
      ((loopLinker.link (fun _ => false) loopPath loopSource loopWorld).1.map
          LinkedModule.references).toOption =
        some ⟨[⟨"/work/b.js"⟩, ⟨"/work/a.js"⟩], ["./b.js", "./a.js"]⟩ := by
    decide +kernel
  cases ran : (loopLinker.link (fun _ => false) loopPath loopSource loopWorld).1 with
  | error cause =>
      rw [ran] at evaluated
      cases evaluated
  | ok linked =>
      rw [ran] at evaluated
      exact ⟨linked, rfl, Option.some.inj evaluated⟩

theorem link_inSourceOrder_iff_loop :
    ∃ linked, (loopLinker.link (fun _ => false) loopPath loopSource loopWorld).1 = .ok linked ∧
      linked.references.requires = ["./b.js", "./a.js"] ∧
      ∃ program, Script.Program.read? loopSource = some program ∧
        (program.tree.InSourceOrder (loopLinker.idFor? loopWorld loopPath.directory)
              linked.references.requires ∧
            program.tree.InSourceOrder (loopLinker.idFor? loopWorld loopPath.directory)
              (linked.references.dependencies.map (Path.identifier loopLinker.root)) ↔
          program.tree.CoversTurns (loopLinker.idFor? loopWorld loopPath.directory)) ∧
        linked.references.dependencies.map (Path.identifier loopLinker.root) =
          linked.references.requires.filter fun _ => true := by
  rcases link_loop with ⟨linked, ran, references⟩
  exact ⟨linked, ran, congrArg References.requires references, link_inSourceOrder_iff ran⟩

/-- The module in the condition of a loop comes before the module in its body,
which stands before it in the text. -/
theorem loop_turns_requires :
    ∃ linked program,
      (loopLinker.link (fun _ => false) loopPath loopSource loopWorld).1 = .ok linked ∧
        Script.Program.read? loopSource = some program ∧
        ¬ program.tree.InSourceOrder (loopLinker.idFor? loopWorld loopPath.directory)
          linked.references.requires := by
  rcases link_loop with ⟨linked, ran, references⟩
  have evaluated : ((Script.Program.read? loopSource).map fun program =>
      program.tree.sites.map fun site =>
        (site, (program.tree.at? site.1).map Script.Node.start)) =
        some [(([0, 0], "./b"), some 29), (([0, 1, 0, 0], "./a"), some 5)] := by
    decide +kernel
  have leads : loopLinker.idFor? loopWorld loopPath.directory "./a" = some "./a.js" ∧
      loopLinker.idFor? loopWorld loopPath.directory "./b" = some "./b.js" := by
    decide +kernel
  rcases Option.map_eq_some_iff.mp evaluated with ⟨program, read, told⟩
  have visits := (Script.Program.read?_isWritten read).visits_sites
  have stands : ∀ position id start,
      program.tree.RefersAt (loopLinker.idFor? loopWorld loopPath.directory) position id start →
        id = "./b.js" ∧ start = 29 ∨ id = "./a.js" ∧ start = 5 := by
    rintro position id start ⟨node, specifier, found, depends, named, rfl⟩
    have listed := (visits.mem_iff position specifier).mpr ⟨node, found, depends⟩
    have image := List.mem_map_of_mem
      (f := fun site => (site, (program.tree.at? site.1).map Script.Node.start)) listed
    rw [told] at image
    simp only [found, List.mem_cons, Prod.mk.injEq, Option.map_some, Option.some.injEq,
      List.not_mem_nil, or_false] at image
    rcases image with ⟨⟨-, rfl⟩, starts⟩ | ⟨⟨-, rfl⟩, starts⟩
    · exact .inl ⟨Option.some.inj (named.symm.trans leads.2), starts⟩
    · exact .inr ⟨Option.some.inj (named.symm.trans leads.1), starts⟩
  refine ⟨linked, program, ran, read, ?_⟩
  rw [references]
  intro inOrder
  rcases (List.pairwise_cons.mp inOrder).1 "./a.js" List.mem_cons_self with
    ⟨start, laterStart, ⟨⟨position, refers⟩, -⟩, ⟨⟨later, laterRefers⟩, -⟩, ordered⟩
  have first := stands position _ start refers
  have second := stands later _ laterStart laterRefers
  simp only [String.reduceEq, false_and, or_false, true_and, false_or] at first second
  omega

end Linker

end ScriptBundle
