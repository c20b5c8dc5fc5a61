import ScriptBundle.Proofs.Change

/-!
# Directories above a path

The path of the directory above an absolute path is the text before its last
step.  So its steps are those of the path without the last, and the steps of all
directories above a path begin the steps of the path.
-/

namespace ScriptBundle

namespace Path

variable {path above : Path}

/-- The segments of an absolute path behind its leading slash. -/
def tail (path : Path) : List (List Char) :=
  (segmentsOf path.characters).drop 1

theorem tail_eq {rest : List Char} (spelled : path.characters = '/' :: rest) :
    path.tail = segmentsOf rest := by
  rw [tail, spelled, segmentsOf_slash_cons]
  rfl

theorem segmentsOf_of_isAbsolute (absolute : path.isAbsolute = true) :
    segmentsOf path.characters = [] :: path.tail := by
  rcases isAbsolute_iff.mp absolute with ⟨rest, spelled⟩
  rw [tail_eq spelled, spelled, segmentsOf_slash_cons]

/-- The segments of a path end in one that is a step. -/
def EndsInStep (path : Path) : Prop :=
  ∃ front last, path.tail = front ++ [last] ∧ isBlank last = false

/-- Segments end in blank ones, which can be dropped. -/
theorem exists_blanks (segments : List (List Char)) :
    ∃ blanks, (∀ segment ∈ blanks, isBlank segment = true) ∧
      segments = (segments.reverse.dropWhile isBlank).reverse ++ blanks := by
  refine ⟨(segments.reverse.takeWhile isBlank).reverse, ?_, ?_⟩
  · intro segment listed
    exact List.mem_takeWhile_imp (List.mem_reverse.mp listed)
  · rw [← List.reverse_append, List.takeWhile_append_dropWhile, List.reverse_reverse]

/-- What blank segments are dropped from is empty or ends in another segment. -/
theorem eq_nil_or_exists_last (segments : List (List Char)) :
    (segments.reverse.dropWhile isBlank).reverse = [] ∨
      ∃ front last, (segments.reverse.dropWhile isBlank).reverse = front ++ [last] ∧
        isBlank last = false := by
  have filled := List.head?_dropWhile_not isBlank segments.reverse
  cases kept : segments.reverse.dropWhile isBlank with
  | nil => exact .inl rfl
  | cons last front =>
      rw [kept] at filled
      exact .inr ⟨front.reverse, last, List.reverse_cons, by simpa using filled⟩

/-- Where the segments of an absolute path are cut for the directory above it. -/
theorem parent_split (absolute : path.isAbsolute = true) (found : path.parent = some above) :
    ∃ before middle last after,
      path.tail = before ++ middle ++ last :: after ∧
        (∀ segment ∈ middle, isBlank segment = true) ∧
        (∀ segment ∈ after, isBlank segment = true) ∧ isBlank last = false ∧
        above.characters = '/' :: joinSegments before ∧
        (before = [] ∨ ∃ front final, before = front ++ [final] ∧ isBlank final = false) := by
  rcases isAbsolute_iff.mp absolute with ⟨body, spelled⟩
  have notHere : path.startsHere = false := by
    rw [startsHere, spelled, segmentsOf_slash_cons]
    rfl
  simp only [parent, absolute, notHere, if_true, Bool.false_eq_true, if_false, spelled,
    List.length_singleton, List.drop_one, List.tail_cons] at found
  have filled := List.head?_dropWhile_not isBlank (segmentsOf body).reverse
  rcases exists_blanks (segmentsOf body) with ⟨after, afterBlank, cut⟩
  cases kept : (segmentsOf body).reverse.dropWhile isBlank with
  | nil =>
      rw [kept] at found
      cases found
  | cons last before =>
      rw [kept] at found filled cut
      cases found
      rcases exists_blanks before.reverse with ⟨middle, middleBlank, cutBefore⟩
      have ends := eq_nil_or_exists_last before.reverse
      rw [List.reverse_reverse] at cutBefore ends
      refine ⟨(before.dropWhile isBlank).reverse, middle, last, after, ?_, middleBlank,
        afterBlank, by simpa using filled, ?_, ends⟩
      · rw [tail_eq spelled, cut, List.reverse_cons, ← cutBefore, List.append_assoc,
          List.singleton_append]
      · rw [characters, String.toList_ofList, List.singleton_append]

/-- The segments of the directory above a path, told by those it was cut from. -/
theorem tail_of_characters {segments : List (List Char)} (nonempty : segments ≠ [])
    (plain : ∀ segment ∈ segments, '/' ∉ segment)
    (spelled : path.characters = '/' :: joinSegments segments) : path.tail = segments := by
  rw [tail_eq spelled, segmentsOf_joinSegments nonempty plain]

theorem plain_of_mem_tail (path : Path) {segment : List Char} (member : segment ∈ path.tail) :
    '/' ∉ segment :=
  slash_not_mem_segment (List.mem_of_mem_drop member)

/-- The steps to the directory above a path are all but the last. -/
theorem components_parent (absolute : path.isAbsolute = true) (found : path.parent = some above) :
    above.components = path.components.dropLast := by
  rcases parent_split absolute found with
    ⟨before, middle, last, after, cut, middleBlank, afterBlank, filled, spelled, -⟩
  have noSteps {blanks : List (List Char)} (blank : ∀ segment ∈ blanks, isBlank segment = true) :
      blanks.filter (!isBlank ·) = [] := by
    rw [List.filter_eq_nil_iff]
    intro segment listed
    simp [blank segment listed]
  have readBack : above.tail.filter (!isBlank ·) = before.filter (!isBlank ·) := by
    by_cases empty : before = []
    · subst empty
      rw [tail_eq spelled]
      rfl
    · rw [tail_of_characters empty _ spelled]
      intro segment listed
      apply path.plain_of_mem_tail
      rw [cut]
      simp [listed]
  have aboveAbsolute := isAbsolute_of_parent absolute found
  rw [components_of_isAbsolute aboveAbsolute, components_of_isAbsolute absolute, steps, steps,
    segmentsOf_of_isAbsolute aboveAbsolute, segmentsOf_of_isAbsolute absolute,
    List.filter_cons_of_neg (by decide), List.filter_cons_of_neg (by decide), readBack, cut,
    List.filter_append, List.filter_append, noSteps middleBlank,
    List.filter_cons_of_pos (by simp [filled]), noSteps afterBlank, List.append_nil,
    List.map_append, List.map_singleton, ← List.cons_append, List.dropLast_concat]

end Path

namespace FileTree

variable {path above : Path}

theorem components_of_mem_ancestorsOf (absolute : path.isAbsolute = true) {fuel : Nat}
    (listed : above ∈ ancestorsOf fuel path) : above.components <+: path.components := by
  induction fuel generalizing path with
  | zero => cases listed
  | succ fuel induction =>
      rw [ancestorsOf] at listed
      split at listed
      · cases listed
      · cases found : path.parent with
        | none =>
            rw [found] at listed
            cases listed
        | some parent =>
            rw [found] at listed
            rcases List.mem_cons.mp listed with rfl | higher
            · exact List.prefix_rfl
            · have shorter := induction (Path.isAbsolute_of_parent absolute found) higher
              rw [Path.components_parent absolute found] at shorter
              exact shorter.trans (List.dropLast_prefix _)

/-- Where the directories above a path are is told by the first of its steps. -/
theorem exists_steps_of_mem_trail (absolute : path.isAbsolute = true) {workingDirectory : Location}
    {location : Location} (listed : location ∈ trail workingDirectory path) :
    ∃ steps, steps <+: path.components ∧ descend [] steps = location := by
  rcases List.mem_map.mp listed with ⟨above, higher, rfl⟩
  refine ⟨above.components, components_of_mem_ancestorsOf absolute higher, ?_⟩
  rw [destination, origin, if_pos (ancestorsOf_isAbsolute absolute _ above higher)]

end FileTree

end ScriptBundle
