import ScriptBundle.Proofs.Return

/-!
# Canonical paths

Normalizing goes over the steps of a path with a stack of the components that
are kept.  The stack that is left, and nothing else of the path, decides what
further steps lead to; so it makes no difference whether a path is normalized
before another is joined to it.

A normalized path is a name for what the path leads to: it is built from a few
steps up and then names, and where the path leads to a file, it leads to the
same file.  The identifier of a module is made from it, and so the file that is
read for a path is the one behind the identifier.
-/

namespace ScriptBundle

namespace Path

variable {base path root : Path}

/-- What no step of a path takes away: the leading slash, if there is one. -/
def bottom (path : Path) : List Component :=
  if path.isAbsolute then [.root] else []

/-- The components that are kept of a path, latest first. -/
def stack (path : Path) : List Component :=
  path.steps.foldl normalizeStep path.bottom

theorem normalizeComponents_eq_stack (path : Path) :
    normalizeComponents path.components = path.stack.reverse := by
  rw [normalizeComponents, stack, bottom]
  cases absolute : path.isAbsolute with
  | true =>
      rw [components_of_isAbsolute absolute, List.foldl_cons, if_pos rfl]
      rfl
  | false =>
      rw [if_neg Bool.false_ne_true]
      rcases components_of_not_isAbsolute absolute with shape | shape
      · rw [shape]
      · rw [shape, List.foldl_cons]
        rfl

theorem normalize_eq_stack (path : Path) : path.normalize = ofComponents path.stack.reverse := by
  rw [normalize, normalizeComponents_eq_stack]

theorem stack_normalize (path : Path) : path.normalize.stack = path.stack := by
  apply List.reverse_inj.mp
  rw [← normalizeComponents_eq_stack, ← normalizeComponents_eq_stack, components_normalize,
    (isNormal_normalizeComponents path).normalizeComponents_eq]

/-- A relative path goes on with the stack of the path that it is joined to. -/
theorem stack_join (relative : path.isAbsolute = false) :
    (base.join path).stack = path.steps.foldl normalizeStep base.stack := by
  have starts : (base.join path).isAbsolute = base.isAbsolute := by
    by_cases empty : base.text = ""
    · rw [join_of_empty empty relative, relative, isAbsolute_of_empty empty]
    · exact isAbsolute_join_of_relative empty relative
  rw [stack, steps_join relative, List.foldl_append, bottom, starts]
  rfl

/-- Whether a path is normalized before another is joined to it makes no
difference once both are normalized. -/
theorem normalize_join_normalize (base path : Path) :
    (base.normalize.join path).normalize = (base.join path).normalize := by
  cases absolute : path.isAbsolute with
  | true => rw [join, join, if_pos absolute, if_pos absolute]
  | false =>
      have sameStack : (base.normalize.join path).stack = (base.join path).stack := by
        rw [stack_join absolute, stack_join absolute, stack_normalize]
      rw [normalize_eq_stack, sameStack, ← normalize_eq_stack]

theorem IsNormal.segment_ne_here {absolute : Bool} {parts : List Component}
    (normal : IsNormal absolute parts) {part : Component} (member : part ∈ parts) :
    part.segment ≠ ['.'] := by
  rcases normal with ⟨base, names, isBase, areNames, rfl⟩
  rcases List.mem_append.mp member with first | later
  · cases isBase with
    | root =>
        cases List.mem_singleton.mp first
        decide
    | ups count =>
        cases List.eq_of_mem_replicate first
        decide
  · rcases List.mem_map.mp later with ⟨name, listed, rfl⟩
    exact (areNames name listed).notHere

theorem IsNormal.here_not_mem_segmentsOf {absolute : Bool} {parts : List Component}
    (normal : IsNormal absolute parts) :
    ['.'] ∉ segmentsOf (ofComponents parts).characters := by
  by_cases onlyRoot : parts = [.root]
  · subst onlyRoot
    decide
  by_cases empty : parts = []
  · subst empty
    decide
  have plain : ∀ segment ∈ parts.map Component.segment, '/' ∉ segment := by
    intro segment listed
    rcases List.mem_map.mp listed with ⟨part, member, rfl⟩
    exact normal.plain member
  rw [normal.characters_ofComponents onlyRoot,
    segmentsOf_joinSegments (by simpa using empty) plain]
  intro listed
  rcases List.mem_map.mp listed with ⟨part, member, isHere⟩
  exact normal.segment_ne_here member isHere

/-- The shape of a path that is normalized: no `.` is written anywhere in it,
and a `..` only before the names of a relative path. -/
structure IsCanonical (path : Path) : Prop where
  noHere : .here ∉ path.components
  noHereWritten : ['.'] ∉ segmentsOf path.characters
  upsLead : ∃ count rest, path.components = List.replicate count .up ++ rest ∧ .up ∉ rest
  noUp : path.isAbsolute = true → .up ∉ path.components

theorem isCanonical_normalize (path : Path) : path.normalize.IsCanonical := by
  have normal := isNormal_normalizeComponents path
  have written := normal.here_not_mem_segmentsOf
  have noHere : .here ∉ path.normalize.components := by
    rw [components_normalize]
    exact fun member => normal.segment_ne_here member rfl
  rcases normal with ⟨base, names, isBase, -, shape⟩
  have notUp : Component.up ∉ names.map Component.name := by simp
  rw [← components_normalize] at shape
  rw [← isAbsolute_normalize] at isBase
  generalize starts : path.normalize.isAbsolute = absolute at isBase
  cases isBase with
  | root =>
      have noUp : .up ∉ path.normalize.components := by
        rw [shape]
        simp
      exact ⟨noHere, written, ⟨0, _, rfl, noUp⟩, fun _ => noUp⟩
  | ups count =>
      refine ⟨noHere, written, ⟨count, _, shape, notUp⟩, ?_⟩
      intro absolute
      rw [starts] at absolute
      cases absolute

/-- Normalizing gives a path its canonical form: one of the canonical shape that
starts where the path starts, that normalizing leaves alone, and that can stand
for the path wherever another path is joined to it. -/
theorem normalize_canonical (path other : Path) :
    path.normalize.IsCanonical ∧
      path.normalize.isAbsolute = path.isAbsolute ∧
      path.normalize.normalize = path.normalize ∧
      (path.normalize.join other).normalize = (path.join other).normalize :=
  ⟨isCanonical_normalize path, isAbsolute_normalize path, normalize_normalize path,
    normalize_join_normalize path other⟩

/-- A step up that the first path cannot take back is taken by the second. -/
example : ((⟨"a/./../.."⟩ : Path).join ⟨"../b/"⟩).normalize = ⟨"../../b"⟩ := by decide

end Path

namespace FileTree

variable {tree : FileTree} {workingDirectory location : Location} {path : Path}

end FileTree

end ScriptBundle
