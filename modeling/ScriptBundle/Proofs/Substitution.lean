import ScriptBundle.Script.Tree

/-!
# Dependencies and their places

A position tells the way from the root of a tree to a node, by the numbers of
the parts that it leads through.  Positions are in the order in which the
nodes are visited: a node comes before what is inside it, and a part before
the parts after it.

The dependencies of a tree stand at certain positions.  When their specifiers
are replaced, what changes is the string at each of these positions, and
nothing else.
-/

namespace ScriptBundle.Script.Node

/-- The node at a position. -/
def at? (node : Node) : List Nat → Option Node
  | [] => some node
  | index :: rest => (node.parts[index]?).bind fun part => part.at? rest

/-- What a node says apart from its parts. -/
structure Face where
  kind : Kind
  start : Nat
  finish : Nat
deriving DecidableEq, Repr

def face (node : Node) : Face :=
  ⟨node.kind, node.start, node.finish⟩

/-- What the node at a position says. -/
def faceAt? (tree : Node) (position : List Nat) : Option Face :=
  (tree.at? position).map face

theorem at?_cons (kind : Kind) (start finish : Nat) (parts : List Node) (index : Nat)
    (rest : List Nat) :
    (Node.mk kind start finish parts).at? (index :: rest) =
      (parts[index]?).bind fun part => part.at? rest :=
  rfl

theorem faceAt?_cons (kind : Kind) (start finish : Nat) (parts : List Node) (index : Nat)
    (rest : List Nat) :
    (Node.mk kind start finish parts).faceAt? (index :: rest) =
      (parts[index]?).bind fun part => part.faceAt? rest := by
  rw [faceAt?, at?_cons]
  cases parts[index]? <;> rfl

/-- A plain call of `require` with one argument, a string. -/
inductive IsDependency : Node → String → Prop where
  | call {start finish nameStart nameFinish textStart textFinish : Nat} {text : Option String}
      {specifier : String} {nameParts textParts : List Node} :
      IsDependency
        (.mk (.call false) start finish
          [.mk (.identifier requireName) nameStart nameFinish nameParts,
            .mk (.string text specifier) textStart textFinish textParts])
        specifier

theorem specifier?_eq_some_iff {kind : Kind} {start finish : Nat} {parts : List Node}
    {specifier : String} :
    specifier? kind parts = some specifier ↔
      IsDependency (.mk kind start finish parts) specifier := by
  constructor
  · intro found
    rw [specifier?] at found
    split at found
    · rename_i called
      subst called
      unfold specifierOf? at found
      split at found
      · split at found
        · rename_i named
          subst named
          cases found
          exact .call
        · cases found
      · cases found
    · cases found
  · rintro ⟨⟩
    rfl

theorem specifier?_eq_none_iff {kind : Kind} {start finish : Nat} {parts : List Node} :
    specifier? kind parts = none ↔
      ∀ specifier, ¬ IsDependency (.mk kind start finish parts) specifier := by
  rw [Option.eq_none_iff_forall_ne_some]
  exact forall_congr' fun specifier => not_congr specifier?_eq_some_iff

/-- A dependency at a position. -/
def DependsAt (tree : Node) (position : List Nat) (specifier : String) : Prop :=
  ∃ node, tree.at? position = some node ∧ node.IsDependency specifier

/-- A dependency at a position, which is inside no other. -/
structure VisitedAt (tree : Node) (position : List Nat) (specifier : String) : Prop where
  found : tree.DependsAt position specifier
  outermost : ∀ above rest node other, above ++ rest = position → rest ≠ [] →
    tree.at? above = some node → ¬ node.IsDependency other

theorem visitedAt_nil_iff {node : Node} {specifier : String} :
    node.VisitedAt [] specifier ↔ node.IsDependency specifier := by
  constructor
  · rintro ⟨⟨_, same, depends⟩, -⟩
    cases same
    exact depends
  · intro depends
    refine ⟨⟨node, rfl, depends⟩, ?_⟩
    intro above rest _ _ whole inside
    exact absurd (List.append_eq_nil_iff.mp whole).2 inside

theorem visitedAt_cons_iff {kind : Kind} {start finish index : Nat} {parts : List Node}
    {rest : List Nat} {specifier : String} :
    (Node.mk kind start finish parts).VisitedAt (index :: rest) specifier ↔
      (∀ other, ¬ IsDependency (.mk kind start finish parts) other) ∧
        ∃ part, parts[index]? = some part ∧ part.VisitedAt rest specifier := by
  constructor
  · rintro ⟨⟨node, found, depends⟩, outermost⟩
    rw [at?_cons] at found
    rcases Option.bind_eq_some_iff.mp found with ⟨part, listed, deeper⟩
    refine ⟨?_, part, listed, ⟨node, deeper, depends⟩, ?_⟩
    · intro other
      exact outermost [] (index :: rest) _ other rfl (List.cons_ne_nil _ _) rfl
    · intro above inner node other whole inside reached
      refine outermost (index :: above) inner node other (congrArg (index :: ·) whole) inside ?_
      rw [at?_cons, listed]
      exact reached
  · rintro ⟨free, part, listed, ⟨node, deeper, depends⟩, outermost⟩
    refine ⟨⟨node, ?_, depends⟩, ?_⟩
    · rw [at?_cons, listed]
      exact deeper
    · intro above inner node other whole inside reached
      cases above with
      | nil =>
          cases reached
          exact free other
      | cons first above =>
          cases whole
          rw [at?_cons, listed] at reached
          exact outermost above inner node other rfl inside reached

theorem at?_append (tree : Node) (above rest : List Nat) :
    tree.at? (above ++ rest) = (tree.at? above).bind fun node => node.at? rest := by
  induction above generalizing tree with
  | nil => rfl
  | cons index above induction =>
      rcases tree with ⟨kind, start, finish, parts⟩
      rw [List.cons_append, at?_cons, at?_cons]
      cases parts[index]? with
      | none => rfl
      | some part => exact induction part

/-- Names and strings have no parts, as in every text. -/
def IsPlain (tree : Node) : Prop :=
  ∀ position node, tree.at? position = some node →
    (∃ name, node.kind = .identifier name) ∨ (∃ text value, node.kind = .string text value) →
      node.parts = []

/-- Nothing is inside a dependency where names and strings have no parts, and
every plain call of `require` with a string is a dependency. -/
theorem IsPlain.visitedAt_iff {tree : Node} (plain : tree.IsPlain) {position : List Nat}
    {specifier : String} :
    tree.VisitedAt position specifier ↔ tree.DependsAt position specifier := by
  constructor
  · intro visited
    exact visited.found
  · rintro ⟨node, found, depends⟩
    refine ⟨⟨node, found, depends⟩, ?_⟩
    rintro above rest outer other rfl inside reached ⟨⟩
    rw [at?_append, reached] at found
    rename_i start finish nameStart nameFinish textStart textFinish text nameParts textParts
    have noNames : nameParts = [] :=
      plain (above ++ [0]) (.mk (.identifier requireName) nameStart nameFinish nameParts)
        (by rw [at?_append, reached]; rfl) (.inl ⟨_, rfl⟩)
    have noTexts : textParts = [] :=
      plain (above ++ [1]) (.mk (.string text other) textStart textFinish textParts)
        (by rw [at?_append, reached]; rfl) (.inr ⟨_, _, rfl⟩)
    subst noNames noTexts
    -- what is inside the call is its callee or its argument, and neither is a call
    rcases rest with _ | ⟨_ | _ | index, _ | ⟨deeper, rest⟩⟩
    · exact inside rfl
    all_goals cases found
    all_goals cases depends

mutual

/-- The dependencies of a tree, in the order in which they are visited. -/
def sites : Node → List (List Nat × String)
  | .mk kind _ _ parts =>
    match specifier? kind parts with
    | some specifier => [([], specifier)]
    | none => sitesFrom 0 parts

/-- The dependencies of parts, the first of which has the given number. -/
def sitesFrom (index : Nat) : List Node → List (List Nat × String)
  | [] => []
  | first :: rest =>
    first.sites.map (fun site => (index :: site.1, site.2)) ++ sitesFrom (index + 1) rest

end

mutual

theorem map_sites : ∀ node : Node, node.sites.map Prod.snd = node.specifiers
  | .mk kind start finish parts => by
      rw [sites, specifiers]
      cases specifier? kind parts with
      | some specifier => rfl
      | none => exact map_sitesFrom 0 parts

theorem map_sitesFrom : ∀ (index : Nat) (parts : List Node),
    (sitesFrom index parts).map Prod.snd = allSpecifiers parts
  | _, [] => rfl
  | index, first :: rest => by
      rw [sitesFrom, allSpecifiers, List.map_append, List.map_map, map_sitesFrom (index + 1) rest,
        ← map_sites first]
      rfl

end

mutual

/-- Every dependency is visited where it stands. -/
theorem mem_sites_iff : ∀ {node : Node} {position : List Nat} {specifier : String},
    (position, specifier) ∈ node.sites ↔ node.VisitedAt position specifier
  | .mk kind start finish parts, [], specifier => by
      rw [sites, visitedAt_nil_iff, ← specifier?_eq_some_iff]
      cases specifier? kind parts with
      | some other => simp [eq_comm]
      | none => simp [mem_sitesFrom_iff]
  | .mk kind start finish parts, index :: rest, specifier => by
      rw [sites, visitedAt_cons_iff, ← specifier?_eq_none_iff]
      cases specifier? kind parts with
      | some other => simp
      | none =>
          dsimp only
          rw [mem_sitesFrom_iff]
          constructor
          · rintro ⟨number, part, inner, same, listed, depends⟩
            rw [Nat.zero_add] at same
            cases same
            exact ⟨rfl, part, listed, depends⟩
          · rintro ⟨-, part, listed, depends⟩
            exact ⟨index, part, rest, by rw [Nat.zero_add], listed, depends⟩

theorem mem_sitesFrom_iff : ∀ {number : Nat} {parts : List Node} {position : List Nat}
    {specifier : String},
    (position, specifier) ∈ sitesFrom number parts ↔
      ∃ index part rest, position = (number + index) :: rest ∧ parts[index]? = some part ∧
        part.VisitedAt rest specifier
  | number, [], position, specifier => by simp [sitesFrom]
  | number, first :: others, position, specifier => by
      rw [sitesFrom, List.mem_append, mem_sitesFrom_iff, List.mem_map]
      constructor
      · rintro (⟨⟨rest, other⟩, listed, same⟩ | ⟨index, part, rest, rfl, listed, depends⟩)
        · cases same
          exact ⟨0, first, rest, rfl, rfl, mem_sites_iff.mp listed⟩
        · exact ⟨index + 1, part, rest, by rw [Nat.add_assoc, Nat.add_comm 1], listed, depends⟩
      · rintro ⟨index, part, rest, rfl, listed, depends⟩
        cases index with
        | zero =>
            cases listed
            exact .inl ⟨(rest, specifier), mem_sites_iff.mpr depends, rfl⟩
        | succ index =>
            exact .inr ⟨index, part, rest, by rw [Nat.add_assoc, Nat.add_comm 1], listed, depends⟩

end

mutual

/-- Dependencies are visited in the order of their positions. -/
theorem pairwise_sites : ∀ node : Node, node.sites.Pairwise fun site later => site.1 < later.1
  | .mk kind start finish parts => by
      rw [sites]
      cases specifier? kind parts with
      | some specifier => exact List.pairwise_singleton _ _
      | none => exact pairwise_sitesFrom 0 parts

theorem pairwise_sitesFrom : ∀ (number : Nat) (parts : List Node),
    (sitesFrom number parts).Pairwise fun site later => site.1 < later.1
  | _, [] => .nil
  | number, first :: others => by
      rw [sitesFrom, List.pairwise_append]
      refine ⟨?_, pairwise_sitesFrom (number + 1) others, ?_⟩
      · apply List.pairwise_map.mpr
        apply (pairwise_sites first).imp
        intro site later before
        exact List.Lex.cons before
      · rintro site inFirst ⟨position, specifier⟩ inOthers
        rcases List.mem_map.mp inFirst with ⟨inner, -, rfl⟩
        rcases mem_sitesFrom_iff.mp inOthers with ⟨index, part, rest, rfl, -⟩
        apply List.Lex.rel
        omega

end

/-- A tree whose specifiers are replaced by a function. -/
def rename (name : String → String) (tree : Node) : Node :=
  Id.run (tree.replaceSpecifiers fun specifier => (pure (name specifier) : Id String))

theorem rename_mk (name : String → String) (kind : Kind) (start finish : Nat)
    (parts : List Node) :
    (Node.mk kind start finish parts).rename name =
      match specifier? kind parts with
      | some specifier => .mk kind start finish (withSpecifier (name specifier) parts)
      | none => .mk kind start finish (parts.map (rename name)) := by
  have all : ∀ nodes : List Node,
      Id.run (replaceAllSpecifiers (fun specifier => (pure (name specifier) : Id String)) nodes) =
        nodes.map (rename name) := by
    intro nodes
    induction nodes with
    | nil => rfl
    | cons first rest induction =>
        rw [List.map_cons, ← induction]
        rfl
  rw [rename, replaceSpecifiers]
  cases specifier? kind parts with
  | some specifier => rfl
  | none =>
      dsimp only
      rw [← all]
      rfl

variable {tree : Node} (name : String → String)

/-- The string of a dependency is replaced. -/
theorem faceAt?_rename_of_visitedAt {position : List Nat} {specifier : String}
    (visited : tree.VisitedAt position specifier) :
    ∃ text start finish,
      tree.faceAt? (position ++ [1]) = some ⟨.string text specifier, start, finish⟩ ∧
        (tree.rename name).faceAt? (position ++ [1]) =
          some ⟨.string none (name specifier), start, finish⟩ := by
  induction position generalizing tree with
  | nil =>
      cases visitedAt_nil_iff.mp visited with
      | call =>
          refine ⟨_, _, _, rfl, ?_⟩
          rw [rename_mk]
          rfl
  | cons index rest induction =>
      rcases tree with ⟨kind, start, finish, parts⟩
      rcases visitedAt_cons_iff.mp visited with ⟨free, part, listed, deeper⟩
      rcases induction deeper with ⟨text, textStart, textFinish, before, after⟩
      refine ⟨text, textStart, textFinish, ?_, ?_⟩
      · rw [List.cons_append, faceAt?_cons, listed]
        exact before
      · rw [rename_mk, specifier?_eq_none_iff.mpr free, List.cons_append]
        dsimp only
        rw [faceAt?_cons, List.getElem?_map, listed]
        exact after

/-- Whatever is not the string of a dependency is kept. -/
theorem faceAt?_rename_of_ne {position : List Nat}
    (other : ∀ call specifier, tree.VisitedAt call specifier → position ≠ call ++ [1]) :
    (tree.rename name).faceAt? position = tree.faceAt? position := by
  induction position generalizing tree with
  | nil =>
      rcases tree with ⟨kind, start, finish, parts⟩
      rw [rename_mk]
      cases specifier? kind parts <;> rfl
  | cons index rest induction =>
      rcases tree with ⟨kind, start, finish, parts⟩
      rw [rename_mk]
      cases told : specifier? kind parts with
      | none =>
          dsimp only
          rw [faceAt?_cons, faceAt?_cons, List.getElem?_map]
          cases listed : parts[index]? with
          | none => rfl
          | some part =>
              apply induction
              intro call specifier depends same
              refine other (index :: call) specifier ?_ (congrArg (index :: ·) same)
              exact visitedAt_cons_iff.mpr ⟨specifier?_eq_none_iff.mp told, part, listed, depends⟩
      | some specifier =>
          have depends : IsDependency (.mk kind start finish parts) specifier :=
            specifier?_eq_some_iff.mp told
          have apart := other [] specifier (visitedAt_nil_iff.mpr depends)
          cases depends with
          | call =>
              -- the callee, what is inside the string, and what is behind it
              rcases index with _ | _ | index
              · rfl
              · cases rest with
                | nil => exact absurd rfl apart
                | cons inner rest => rfl
              · rfl

/-- A tree in which every specifier is replaced by the identifier it leads to,
and nothing else is. -/
structure Renamed (idFor? : String → Option String) (before after : Node) : Prop where
  replaced : ∀ position specifier, before.DependsAt position specifier →
    ∃ id text start finish, idFor? specifier = some id ∧
      before.faceAt? (position ++ [1]) = some ⟨.string text specifier, start, finish⟩ ∧
      after.faceAt? (position ++ [1]) = some ⟨.string none id, start, finish⟩
  kept : ∀ position,
    (∀ call specifier, before.DependsAt call specifier → position ≠ call ++ [1]) →
      after.faceAt? position = before.faceAt? position

theorem IsPlain.renamed_rename {idFor? : String → Option String} (plain : tree.IsPlain)
    (told : ∀ position specifier, tree.DependsAt position specifier →
      idFor? specifier = some (name specifier)) :
    tree.Renamed idFor? (tree.rename name) := by
  constructor
  · intro position specifier depends
    rcases faceAt?_rename_of_visitedAt name (plain.visitedAt_iff.mpr depends) with
      ⟨text, start, finish, before, after⟩
    exact ⟨name specifier, text, start, finish, told position specifier depends, before, after⟩
  · intro position other
    apply faceAt?_rename_of_ne
    intro call specifier visited
    exact other call specifier visited.found

end ScriptBundle.Script.Node
