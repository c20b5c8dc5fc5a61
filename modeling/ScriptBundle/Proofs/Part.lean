import ScriptBundle.Proofs.Ancestor
import ScriptBundle.Proofs.Identity

/-!
# Parts of a tree

When some of a tree was removed, what is left is a part of it: it has nothing
that the tree has not.  A path that leads somewhere in the tree leads there in
the part too, or comes to a place that is missing.

A path that leads to a directory also names the directories above it, each by a
shorter path.
-/

namespace ScriptBundle

namespace Path

theorem joinSegments_append {left right : List (List Char)} (leftFilled : left ≠ [])
    (rightFilled : right ≠ []) :
    joinSegments (left ++ right) = joinSegments left ++ '/' :: joinSegments right := by
  induction left with
  | nil => exact absurd rfl leftFilled
  | cons segment rest induction =>
      by_cases last : rest = []
      · subst last
        exact joinSegments_cons rightFilled
      · have more : rest ++ right ≠ [] := by simp [last]
        rw [List.cons_append, joinSegments_cons more, joinSegments_cons last, induction last,
          List.append_assoc, List.cons_append]

theorem joinSegments_prefix (left right : List (List Char)) :
    joinSegments left <+: joinSegments (left ++ right) := by
  by_cases leftFilled : left = []
  · subst leftFilled
    exact List.nil_prefix
  · by_cases rightFilled : right = []
    · simp [rightFilled]
    · rw [joinSegments_append leftFilled rightFilled]
      exact List.prefix_append _ _

theorem length_joinSegments_lt {last : List Char} (left : List (List Char)) (filled : last ≠ []) :
    (joinSegments left).length < (joinSegments (left ++ [last])).length := by
  have positive := List.length_pos_of_ne_nil filled
  by_cases leftFilled : left = []
  · subst leftFilled
    exact positive
  · rw [joinSegments_append leftFilled (by simp), List.length_append, List.length_cons]
    omega

/-- There is no directory above one whose path makes no step. -/
theorem parent_eq_none_of_tail {path : Path} (absolute : path.isAbsolute = true)
    (none : path.tail = [[]]) : path.parent = .none := by
  cases found : path.parent with
  | none => rfl
  | some above =>
      rcases parent_split absolute found with ⟨before, middle, last, after, cut, -, -, filled, -⟩
      have listed : last ∈ path.tail := by
        rw [cut]
        simp
      rw [none] at listed
      rw [List.mem_singleton.mp listed] at filled
      cases filled

theorem characters_eq_of_isAbsolute {path : Path} (absolute : path.isAbsolute = true) :
    path.characters = '/' :: joinSegments path.tail := by
  rcases isAbsolute_iff.mp absolute with ⟨rest, spelled⟩
  rw [tail_eq spelled, joinSegments_segmentsOf, spelled]

end Path

namespace FileTree

variable {tree part whole changed : FileTree} {workingDirectory location start place : Location}
  {path above : Path} {segments front blanks : List (List Char)} {last : List Char}

/-- A tree has nothing that another has not, except that files may have other
contents. -/
structure PartOf (part whole : FileTree) : Prop where
  directory : ∀ location, part.entryAt location = some .directory →
    whole.entryAt location = some .directory
  file : ∀ location content, part.entryAt location = some (.file content) →
    ∃ other, whole.entryAt location = some (.file other)

namespace PartOf

theorem refl (tree : FileTree) : PartOf tree tree :=
  ⟨fun _ held => held, fun _ content held => ⟨content, held⟩⟩

/-- Files and directories may be put where the whole has some. -/
theorem overlay {files : List (Location × ByteArray)} {made : List Location}
    (partOf : part.PartOf whole) (overlay : Overlay files made part changed)
    (filesInside : ∀ location content, files.lookup location = some content →
      ∃ other, whole.entryAt location = some (.file other))
    (madeInside : ∀ location ∈ made, whole.entryAt location = some .directory) :
    changed.PartOf whole := by
  constructor
  · intro location held
    rw [overlay.entryAt_eq] at held
    split at held
    · cases held
    · split at held
      · next listed => exact madeInside location listed
      · exact partOf.directory location held
  · intro location content held
    rw [overlay.entryAt_eq] at held
    split at held
    · next other written => exact filesInside location other written
    · split at held
      · cases held
      · exact partOf.file location content held

/-- What is at a place where the whole has a directory is that directory. -/
theorem hasDirectory (partOf : part.PartOf whole) (present : (part.entryAt location).isSome = true)
    (directory : whole.hasDirectory location = true) : part.hasDirectory location = true := by
  rw [hasDirectory_iff] at directory ⊢
  rcases Option.isSome_iff_exists.mp present with ⟨content | _, held⟩
  · rcases partOf.file location content held with ⟨other, there⟩
    rw [directory] at there
    cases there
  · exact held

theorem enter (partOf : part.PartOf whole) {current next : Location} {segment : List Char}
    (present : (part.entryAt current).isSome = true)
    (entered : whole.enter current segment = .ok next) : part.enter current segment = .ok next := by
  have directory := hasDirectory_of_enter entered
  rw [enter_eq directory] at entered
  rw [enter_eq (partOf.hasDirectory present directory)]
  exact entered

/-- What can be walked in the whole can be walked in a part, or comes to where
the part ends. -/
theorem walk (partOf : part.PartOf whole) (present : (part.entryAt start).isSome = true)
    (walked : whole.walk start segments = .ok location) :
    part.walk start segments = .ok location ∨ part.walk start segments = .error .notFound := by
  induction segments generalizing start with
  | nil => exact .inl walked
  | cons segment rest induction =>
      rcases walk_cons.mp walked with ⟨next, stepped, further⟩
      have entered := partOf.enter present (step_eq_ok_iff.mp stepped).1
      by_cases there : (part.entryAt next).isSome = true
      · have reached : part.step start segment = .ok next :=
          step_eq_ok_iff.mpr ⟨entered, there⟩
        rw [FileTree.walk, reached]
        exact induction there further
      · right
        have missing : part.step start segment = .error .notFound := by
          rw [step, entered]
          exact if_neg there
        rw [FileTree.walk, missing]
        rfl

end PartOf

/-- Above a place that was walked to are directories. -/
theorem hasDirectory_above_of_walk
    (above : ∀ place, place <+: start → place ≠ start → tree.hasDirectory place = true)
    (walked : tree.walk start segments = .ok location) :
    ∀ place, place <+: location → place ≠ location → tree.hasDirectory place = true := by
  induction segments generalizing start with
  | nil =>
      cases walked
      exact above
  | cons segment rest induction =>
      rcases walk_cons.mp walked with ⟨next, stepped, further⟩
      refine induction ?_ further
      intro place prefixed differs
      have directory := hasDirectory_of_step stepped
      have reached := step_eq stepped
      split at reached
      · exact above place (reached ▸ prefixed) (reached ▸ differs)
      · rw [Path.Component.ofSegment] at reached
        split at reached
        · -- a step up
          subst reached
          have shorter : place <+: start := prefixed.trans (List.dropLast_prefix _)
          by_cases same : place = start
          · rw [same]
            exact directory
          · exact above place shorter same
        · subst reached
          rcases List.prefix_concat_iff.mp prefixed with same | shorter
          · exact absurd same differs
          · by_cases same : place = start
            · rw [same]
              exact directory
            · exact above place shorter same

/-- The place above a place that was walked to from the root is a directory. -/
theorem hasDirectory_dropLast_of_walk (walked : tree.walk [] segments = .ok location) :
    tree.hasDirectory location.dropLast = true := by
  by_cases root : location = []
  · rw [root]
    exact tree.hasDirectory_root
  · apply hasDirectory_above_of_walk _ walked _ (List.dropLast_prefix _)
    · intro same
      have shorter := congrArg List.length same
      rw [List.length_dropLast] at shorter
      have positive := List.length_pos_of_ne_nil root
      omega
    · intro place prefixed differs
      exact absurd (List.prefix_nil.mp prefixed) differs

theorem walk_blanks (blank : ∀ segment ∈ blanks, Path.isBlank segment = true)
    (directory : tree.hasDirectory start = true) : tree.walk start blanks = .ok start := by
  induction blanks with
  | nil => rfl
  | cons segment rest induction =>
      rcases List.forall_mem_cons.mp blank with ⟨first, others⟩
      refine walk_cons.mpr ⟨start, step_eq_ok_iff.mpr ⟨?_, ?_⟩, induction others⟩
      · rw [enter_eq directory, if_pos first]
      · rw [hasDirectory_iff.mp directory]
        rfl

theorem eq_of_walk_blanks (blank : ∀ segment ∈ blanks, Path.isBlank segment = true)
    (walked : tree.walk start blanks = .ok location) : location = start := by
  have noSteps : blanks.filter (!Path.isBlank ·) = [] := by
    rw [List.filter_eq_nil_iff]
    intro segment listed
    simp [blank segment listed]
  have reached := walk_eq_descend walked
  rw [noSteps] at reached
  exact reached

/-- An absolute path leads where the segments behind its leading slash lead. -/
theorem resolve_iff_of_isAbsolute (absolute : path.isAbsolute = true) :
    tree.resolve workingDirectory path = .ok location ↔
      IsPathText path ∧ tree.walk [] path.tail = .ok location := by
  rw [resolve_eq_ok_iff, origin, if_pos absolute, Path.segmentsOf_of_isAbsolute absolute, walk_cons]
  have stays : tree.step [] [] = .ok [] :=
    step_eq_ok_iff.mpr ⟨by simp [FileTree.enter], by simp⟩
  rw [stays]
  simp

theorem IsPathText.of_prefix (isText : IsPathText path) (nonempty : above.characters ≠ [])
    (begins : above.characters <+: path.characters) : IsPathText above := by
  refine ⟨?_, ?_, ?_⟩
  · intro empty
    exact nonempty (by rw [Path.characters, empty]; rfl)
  · intro null
    exact isText.noNull (begins.subset null)
  · rcases begins with ⟨more, spelled⟩
    have bytes := Path.byteCount_append above.characters more
    rw [spelled, Path.byteCount, Path.byteCount, Path.characters, Path.characters,
      String.ofList_toList, String.ofList_toList] at bytes
    have fits := isText.fits
    omega

/-! ## Paths to directories -/

/-- An absolute path that ends in a step, or makes none, leads to a directory. -/
structure LeadsToDirectory (tree : FileTree) (path : Path) : Prop where
  absolute : path.isAbsolute = true
  isText : IsPathText path
  ends : path.tail = [[]] ∨ path.EndsInStep
  walked : tree.walk [] path.tail = .ok path.place
  directory : tree.hasDirectory path.place = true

namespace LeadsToDirectory

theorem resolve (leads : tree.LeadsToDirectory path) (workingDirectory : Location) :
    tree.resolve workingDirectory path = .ok path.place :=
  (resolve_iff_of_isAbsolute leads.absolute).mpr ⟨leads.isText, leads.walked⟩

theorem isDirectory (leads : tree.LeadsToDirectory path) (workingDirectory : Location) :
    tree.isDirectory workingDirectory path = true := by
  have held := hasDirectory_iff.mp leads.directory
  simp [FileTree.isDirectory, lookup, leads.resolve workingDirectory, held, bind, Except.bind, pure,
    Except.pure]

end LeadsToDirectory

/-- An absolute path that makes no step leads to the root of every tree. -/
theorem LeadsToDirectory.of_tail (leads : tree.LeadsToDirectory path) (none : path.tail = [[]])
    (other : FileTree) : other.LeadsToDirectory path := by
  have here : path.place = [] := by
    have walked := leads.walked
    rw [none] at walked
    exact eq_of_walk_blanks (by simp [Path.isBlank]) walked
  refine ⟨leads.absolute, leads.isText, leads.ends, ?_, ?_⟩
  · rw [none, here]
    exact walk_blanks (by simp [Path.isBlank]) other.hasDirectory_root
  · rw [here]
    exact other.hasDirectory_root

/-- An absolute path leads to its place, if it leads anywhere. -/
theorem eq_place_of_walk (absolute : path.isAbsolute = true)
    (walked : tree.walk [] path.tail = .ok location) : location = path.place := by
  rw [walk_eq_descend walked, Path.place, Path.components_of_isAbsolute absolute, Path.steps,
    Path.segmentsOf_of_isAbsolute absolute, List.filter_cons_of_neg (by decide)]
  rfl

/-- Above a path that ends in a step is a shorter path to a directory, from which
the step is made. -/
theorem exists_above (absolute : path.isAbsolute = true) (isText : IsPathText path)
    (cut : path.tail = front ++ [last]) (filled : Path.isBlank last = false)
    (walked : tree.walk [] path.tail = .ok location) :
    ∃ above, path.parent = some above ∧ tree.LeadsToDirectory above ∧
      tree.enter above.place last = .ok location ∧
      above.characters.length < path.characters.length ∧
      ∀ other : FileTree, other.LeadsToDirectory above →
        other.walk [] front = .ok above.place := by
  have steps : path.steps ≠ [] := by
    rw [Path.steps, Path.segmentsOf_of_isAbsolute absolute, cut]
    simp [filled]
  rcases Path.exists_parent absolute steps with ⟨above, found⟩
  have aboveAbsolute := Path.isAbsolute_of_parent absolute found
  rcases Path.parent_split absolute found with
    ⟨before, middle, other, after, split, middleBlank, afterBlank, -, spelled, ends⟩
  -- the path ends in a step, and so nothing blank comes after the step that is cut off
  have same : front = before ++ middle ∧ last = other := by
    rw [cut] at split
    rcases List.eq_nil_or_concat after with rfl | ⟨more, final, rfl⟩
    · exact (List.append_inj' split rfl).imp_right fun same => List.singleton_inj.mp same
    · rw [List.concat_eq_append] at afterBlank split
      have tails : front ++ [last] = (before ++ middle ++ other :: more) ++ [final] := by
        rw [split]
        simp
      have isFinal := List.singleton_inj.mp (List.append_inj' tails rfl).2
      have blank := afterBlank final (by simp)
      rw [← isFinal, filled] at blank
      cases blank
  rcases same with ⟨rfl, rfl⟩
  have aboveTail : above.tail = if before = [] then [[]] else before := by
    split
    · next empty =>
      rw [Path.tail_eq spelled, empty]
      rfl
    · next filled =>
      apply Path.tail_of_characters filled _ spelled
      intro segment listed
      apply path.plain_of_mem_tail
      rw [cut]
      simp [listed]
  have walkAbove (other : FileTree) : other.walk [] above.tail = other.walk [] before := by
    rw [aboveTail]
    split
    · next empty =>
      rw [empty]
      exact walk_blanks (by simp [Path.isBlank]) other.hasDirectory_root
    · rfl
  have whole : path.characters = '/' :: Path.joinSegments (before ++ middle ++ [last]) := by
    rw [Path.characters_eq_of_isAbsolute absolute, cut]
  have begins := Path.joinSegments_prefix before middle
  have shorter : (Path.joinSegments (before ++ middle)).length <
      (Path.joinSegments (before ++ middle ++ [last])).length := by
    apply Path.length_joinSegments_lt
    rintro rfl
    cases filled
  rw [cut] at walked
  rcases walk_append.mp walked with ⟨parent, toParent, lastStep⟩
  rcases walk_cons.mp lastStep with ⟨next, stepped, ended⟩
  cases ended
  rcases walk_append.mp toParent with ⟨reached, toReached, stays⟩
  have isReached := eq_of_walk_blanks middleBlank stays
  subst isReached
  have directory := hasDirectory_of_step stepped
  rw [← walkAbove] at toReached
  have here := eq_place_of_walk aboveAbsolute toReached
  subst here
  refine ⟨above, found, ⟨aboveAbsolute, ?_, ?_, toReached, directory⟩,
    (step_eq_ok_iff.mp stepped).1, ?_, ?_⟩
  · apply isText.of_prefix
    · rw [spelled]
      exact List.cons_ne_nil _ _
    · rw [spelled, whole]
      apply (List.prefix_cons_inj '/').mpr
      exact begins.trans (Path.joinSegments_prefix _ _)
  · rw [Path.EndsInStep, aboveTail]
    rcases ends with rfl | ⟨others, final, rfl, finalFilled⟩
    · exact .inl rfl
    · exact .inr ⟨others, final, if_neg (by simp), finalFilled⟩
  · rw [spelled, whole, List.length_cons, List.length_cons]
    have bounded := begins.length_le
    omega
  · intro other leads
    have again := leads.walked
    rw [walkAbove] at again
    exact walk_append.mpr ⟨above.place, again, walk_blanks middleBlank leads.directory⟩

/-- The paths above one that leads to a directory lead to directories. -/
theorem leadsToDirectory_of_mem_ancestorsOf {fuel : Nat} (leads : tree.LeadsToDirectory path)
    (listed : above ∈ ancestorsOf fuel path) : tree.LeadsToDirectory above := by
  induction fuel generalizing path with
  | zero => cases listed
  | succ fuel induction =>
      rw [ancestorsOf, if_neg leads.isText.nonempty] at listed
      rcases leads.ends with none | ⟨front, last, cut, filled⟩
      · rw [Path.parent_eq_none_of_tail leads.absolute none] at listed
        cases listed
      · rcases exists_above leads.absolute leads.isText cut filled leads.walked with
          ⟨parent, isAbove, leadsAbove, -⟩
        rw [isAbove] at listed
        rcases List.mem_cons.mp listed with rfl | higher
        · exact leads
        · exact induction leadsAbove higher

/-- An absolute path to a file ends in a name. -/
theorem LeadsToFile.ends (leads : tree.LeadsToFile workingDirectory path location)
    (absolute : path.isAbsolute = true) :
    ∃ front last, path.tail = front ++ [last] ∧ Path.isBlank last = false ∧
      last ≠ ['.', '.'] := by
  have walked := ((resolve_iff_of_isAbsolute absolute).mp leads.resolved).2
  have noDirectory : tree.hasDirectory location ≠ true := by
    intro directory
    rcases leads.isFile with ⟨content, held⟩
    rw [hasDirectory_iff, held] at directory
    cases directory
  rcases List.eq_nil_or_concat path.tail with empty | ⟨front, last, cut⟩
  · rw [empty] at walked
    cases walked
    exact absurd tree.hasDirectory_root noDirectory
  · rw [List.concat_eq_append] at cut
    rw [cut] at walked
    rcases walk_append.mp walked with ⟨parent, toParent, lastStep⟩
    rcases walk_cons.mp lastStep with ⟨next, stepped, ended⟩
    cases ended
    have reached := step_eq stepped
    refine ⟨front, last, cut, ?_, ?_⟩
    · rw [Bool.eq_false_iff]
      intro blank
      rw [if_pos blank] at reached
      exact noDirectory (reached ▸ hasDirectory_of_step stepped)
    · rintro rfl
      rw [if_neg (by decide), Path.Component.ofSegment, if_pos rfl] at reached
      exact noDirectory (reached ▸ hasDirectory_dropLast_of_walk toParent)

/-- The directory above a file is there, and the file is in it. -/
theorem LeadsToFile.exists_above (leads : tree.LeadsToFile workingDirectory path location)
    (absolute : path.isAbsolute = true) :
    ∃ above, path.parent = some above ∧ tree.LeadsToDirectory above := by
  rcases leads.ends absolute with ⟨front, last, cut, filled, -⟩
  rcases (resolve_iff_of_isAbsolute absolute).mp leads.resolved with ⟨isText, walked⟩
  rcases FileTree.exists_above absolute isText cut filled walked with
    ⟨above, isAbove, leadsAbove, -⟩
  exact ⟨above, isAbove, leadsAbove⟩

end FileTree

end ScriptBundle
