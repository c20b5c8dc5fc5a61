import ScriptBundle.Proofs.Normalized

/-!
# Joined paths and where they lead

A path that is joined to another makes the steps of the first and then its own,
and the directory above a path is reached by all steps but the last.  So where
such paths lead is told without their texts, for relative paths as well, of
which a leading `.` is no step.
-/

namespace ScriptBundle

namespace Path

theorem segmentsOf_append (left right : List Char) :
    segmentsOf (left ++ '/' :: right) = segmentsOf left ++ segmentsOf right := by
  induction left with
  | nil => simp [segmentsOf]
  | cons character rest induction =>
      by_cases slash : character = '/'
      · subst slash
        rw [List.cons_append, segmentsOf_slash_cons, segmentsOf_slash_cons, induction,
          List.cons_append]
      · rcases segmentsOf_cons slash rest with ⟨first, others, cut, cutAll⟩
        rw [cut, List.cons_append] at induction
        rw [List.cons_append, segmentsOf, if_neg slash, induction, cutAll, List.cons_append]

/-- The steps that segments make. -/
def stepsOf (segments : List (List Char)) : List Component :=
  (segments.filter (!isBlank ·)).map Component.ofSegment

@[simp]
theorem stepsOf_append (left right : List (List Char)) :
    stepsOf (left ++ right) = stepsOf left ++ stepsOf right := by
  rw [stepsOf, List.filter_append, List.map_append]
  rfl

theorem stepsOf_cons_of_blank {segment : List Char} (blank : isBlank segment = true)
    (others : List (List Char)) : stepsOf (segment :: others) = stepsOf others := by
  rw [stepsOf, List.filter_cons_of_neg (by simp [blank])]
  rfl

theorem stepsOf_blanks {blanks : List (List Char)}
    (blank : ∀ segment ∈ blanks, isBlank segment = true) : stepsOf blanks = [] := by
  induction blanks with
  | nil => rfl
  | cons segment rest induction =>
      rcases List.forall_mem_cons.mp blank with ⟨first, others⟩
      rw [stepsOf_cons_of_blank first, induction others]

theorem stepsOf_singleton {segment : List Char} (filled : isBlank segment = false) :
    stepsOf [segment] = [.ofSegment segment] := by
  rw [stepsOf, List.filter_cons_of_pos (by simp [filled])]
  rfl

/-- Segments that were joined make their steps again. -/
theorem stepsOf_joinSegments {segments : List (List Char)}
    (plain : ∀ segment ∈ segments, '/' ∉ segment) :
    stepsOf (segmentsOf (joinSegments segments)) = stepsOf segments := by
  by_cases empty : segments = []
  · subst empty
    rfl
  · rw [segmentsOf_joinSegments empty plain]

namespace IsName

variable {name : String}

theorem isAbsolute_eq_false (isName : IsName name.toList) :
    (⟨name⟩ : Path).isAbsolute = false := by
  rw [Bool.eq_false_iff]
  intro absolute
  rcases isAbsolute_iff.mp absolute with ⟨rest, spelled⟩
  apply isName.plain
  rw [← characters.eq_def ⟨name⟩, spelled]
  exact List.mem_cons_self

theorem steps_eq (isName : IsName name.toList) :
    (⟨name⟩ : Path).steps = [.name name.toList] := by
  have filled : isBlank name.toList = false := IsStep.isBlank_segment (.name isName)
  change stepsOf (segmentsOf name.toList) = _
  rw [segmentsOf_plain isName.plain, stepsOf_singleton filled, Component.ofSegment,
    if_neg isName.notUp]

end IsName

variable {base path above : Path}

theorem isAbsolute_join_of_relative (filled : base.text ≠ "")
    (relative : path.isAbsolute = false) : (base.join path).isAbsolute = base.isAbsolute := by
  have nonempty : base.characters ≠ [] := by
    rw [characters]
    simpa using filled
  rcases List.exists_cons_of_ne_nil nonempty with ⟨first, rest, spelled⟩
  rw [characters] at spelled
  rw [join, relative, if_neg Bool.false_ne_true]
  split <;> simp [isAbsolute, characters, String.toList_append, spelled]

/-- A relative path is written after the segments of the path that it is joined
to; the blank one that a slash at the end of this leaves is dropped. -/
theorem segmentsOf_join (filled : base.text ≠ "") (relative : path.isAbsolute = false) :
    ∃ front blanks, (∀ segment ∈ blanks, isBlank segment = true) ∧
      segmentsOf base.characters = front ++ blanks ∧
      segmentsOf (base.join path).characters = front ++ segmentsOf path.characters := by
  rw [join, relative, if_neg Bool.false_ne_true]
  by_cases slash : base.characters.getLast? = some '/'
  · rw [if_pos (by simp [slash])]
    rcases List.eq_nil_or_concat base.characters with nothing | ⟨front, last, cut⟩
    · rw [nothing] at slash
      cases slash
    · rw [List.concat_eq_append] at cut
      rw [cut, List.getLast?_concat] at slash
      cases slash
      have spelled : characters ⟨base.text ++ path.text⟩ = front ++ '/' :: path.characters := by
        rw [characters, String.toList_append, ← characters, ← characters, cut,
          List.append_assoc, List.singleton_append]
      refine ⟨segmentsOf front, [[]], by simp [isBlank], ?_, ?_⟩
      · rw [cut, segmentsOf_append]
        rfl
      · rw [spelled, segmentsOf_append]
  · rw [if_neg (by simp [slash, filled])]
    have spelled : characters ⟨base.text ++ "/" ++ path.text⟩ =
        base.characters ++ '/' :: path.characters := by
      rw [characters, String.toList_append, String.toList_append, List.append_assoc]
      rfl
    refine ⟨segmentsOf base.characters, [], List.forall_mem_nil _, (List.append_nil _).symm, ?_⟩
    rw [spelled, segmentsOf_append]

theorem steps_of_empty (empty : path.text = "") : path.steps = [] := by
  rw [steps, characters, empty]
  rfl

theorem isAbsolute_of_empty (empty : path.text = "") : path.isAbsolute = false := by
  rw [isAbsolute, characters, empty]
  rfl

/-- A relative path that is joined to the empty path stands for itself. -/
theorem join_of_empty (empty : base.text = "") (relative : path.isAbsolute = false) :
    base.join path = path := by
  rw [join, relative, if_neg Bool.false_ne_true, empty, String.empty_append]
  rfl

/-- A relative path that is joined to another makes its steps after those of the
other. -/
theorem steps_join (relative : path.isAbsolute = false) :
    (base.join path).steps = base.steps ++ path.steps := by
  by_cases empty : base.text = ""
  · rw [join_of_empty empty relative, steps_of_empty empty, List.nil_append]
  · rcases segmentsOf_join empty relative with ⟨front, blanks, blank, cut, joined⟩
    change stepsOf _ = stepsOf _ ++ stepsOf _
    rw [joined, cut, stepsOf_append, stepsOf_append, stepsOf_blanks blank, List.append_nil]

/-- A path that starts with a `.` has the segments of the text behind it. -/
theorem segmentsOf_of_startsHere (here : path.startsHere = true) :
    ∃ rest, segmentsOf path.characters = ['.'] :: rest ∧
      segmentsOf (path.characters.drop 1) = [] :: rest := by
  rw [startsHere, decide_eq_true_eq] at here
  rcases List.head?_eq_some_iff.mp here with ⟨rest, cut⟩
  refine ⟨rest, cut, ?_⟩
  have spelled := joinSegments_segmentsOf path.characters
  rw [cut] at spelled
  by_cases last : rest = []
  · subst last
    rw [← spelled]
    rfl
  · have plain : ∀ segment ∈ rest, '/' ∉ segment := by
      intro segment listed
      have inside : segment ∈ segmentsOf path.characters := by
        rw [cut]
        exact List.mem_cons_of_mem _ listed
      exact slash_not_mem_segment inside
    rw [joinSegments_cons last] at spelled
    rw [← spelled, List.singleton_append, List.drop_one, List.tail_cons, segmentsOf_slash_cons,
      segmentsOf_joinSegments last plain]

/-- Where segments are cut before their last step. -/
theorem cut_last {segments before : List (List Char)} {last : List Char}
    (kept : segments.reverse.dropWhile isBlank = last :: before) :
    stepsOf segments = stepsOf (before.dropWhile isBlank).reverse ++ [.ofSegment last] ∧
      (before.dropWhile isBlank).reverse <+: segments := by
  have filled := List.head?_dropWhile_not isBlank segments.reverse
  rcases exists_blanks segments with ⟨after, afterBlank, cut⟩
  rcases exists_blanks before.reverse with ⟨middle, middleBlank, cutBefore⟩
  rw [kept] at filled
  rw [kept, List.reverse_cons, cutBefore, List.reverse_reverse] at cut
  have isStep : isBlank last = false := by simpa using filled
  constructor
  · rw [cut, stepsOf_append, stepsOf_append, stepsOf_append, stepsOf_blanks middleBlank,
      stepsOf_blanks afterBlank, stepsOf_singleton isStep, List.append_nil, List.append_nil]
  · rw [cut, List.append_assoc, List.append_assoc]
    exact List.prefix_append _ _

/-- The directory above a path is reached by all steps but the last, and starts
where the path starts. -/
theorem steps_parent (found : path.parent = some above) :
    above.steps = path.steps.dropLast ∧ above.isAbsolute = path.isAbsolute := by
  cases absolute : path.isAbsolute with
  | true =>
      have higher := isAbsolute_of_parent absolute found
      have cut := components_parent absolute found
      rw [components_of_isAbsolute higher, components_of_isAbsolute absolute] at cut
      refine ⟨?_, higher⟩
      cases made : path.steps with
      | nil =>
          rw [made] at cut
          cases cut
      | cons step rest =>
          rw [made, List.dropLast_cons_cons] at cut
          exact (List.cons.inj cut).2
  | false =>
      simp only [parent, absolute, Bool.false_eq_true, if_false] at found
      cases here : path.startsHere with
      | true =>
          rcases segmentsOf_of_startsHere here with ⟨rest, cut, cutBody⟩
          have made : path.steps = stepsOf ([] :: rest) := by
            change stepsOf _ = _
            rw [cut, stepsOf_cons_of_blank (by decide), stepsOf_cons_of_blank (by decide)]
          rw [here] at found
          simp only [if_true, List.length_singleton, cutBody] at found
          cases kept : ([] :: rest).reverse.dropWhile isBlank with
          | nil =>
              rw [kept] at found
              cases found
              have none : path.steps = [] := by
                rw [made]
                apply stepsOf_blanks
                intro segment listed
                exact List.dropWhile_eq_nil_iff.mp kept segment (List.mem_reverse.mpr listed)
              rw [none]
              exact ⟨rfl, rfl⟩
          | cons last before =>
              rcases cut_last kept with ⟨stepsCut, prefixed⟩
              rw [kept] at found
              cases found
              rw [made, stepsCut, List.dropLast_concat]
              refine ⟨?_, by simp [isAbsolute, characters]⟩
              change stepsOf (segmentsOf (characters ⟨String.ofList _⟩)) = _
              rw [characters, String.toList_ofList]
              generalize (before.dropWhile isBlank).reverse = front at prefixed
              cases front with
              | nil => rfl
              | cons first more =>
                  rcases List.cons_prefix_cons.mp prefixed with ⟨rfl, further⟩
                  by_cases only : more = []
                  · subst only
                    rfl
                  · have plain : ∀ segment ∈ more, '/' ∉ segment := by
                      intro segment listed
                      have inside : segment ∈ segmentsOf path.characters := by
                        rw [cut]
                        exact List.mem_cons_of_mem _ (further.subset listed)
                      exact slash_not_mem_segment inside
                    rw [joinSegments_cons only, List.nil_append,
                      segmentsOf_append ['.'], stepsOf_append, stepsOf_joinSegments plain,
                      stepsOf_cons_of_blank (by decide)]
                    rfl
      | false =>
          rw [here] at found
          simp only [Bool.false_eq_true, if_false, List.length_nil, List.drop_zero,
            List.nil_append] at found
          cases kept : (segmentsOf path.characters).reverse.dropWhile isBlank with
          | nil =>
              rw [kept] at found
              cases found
          | cons last before =>
              rcases cut_last kept with ⟨stepsCut, prefixed⟩
              rw [kept] at found
              cases found
              have plain : ∀ segment ∈ (before.dropWhile isBlank).reverse, '/' ∉ segment :=
                fun segment listed => slash_not_mem_segment (prefixed.subset listed)
              constructor
              · change stepsOf (segmentsOf (characters ⟨String.ofList _⟩)) =
                  (stepsOf (segmentsOf path.characters)).dropLast
                rw [characters, String.toList_ofList, stepsOf_joinSegments plain, stepsCut,
                  List.dropLast_concat]
              · rcases prefixed with ⟨others, whole⟩
                have begins := joinSegments_prefix (before.dropWhile isBlank).reverse others
                rw [whole, joinSegments_segmentsOf] at begins
                rw [Bool.eq_false_iff]
                intro higher
                rcases isAbsolute_iff.mp higher with ⟨body, spelled⟩
                rw [characters, String.toList_ofList] at spelled
                rw [spelled] at begins
                rcases begins with ⟨end_, spelledAll⟩
                exact Bool.eq_false_iff.mp absolute
                  (isAbsolute_iff.mpr ⟨_, spelledAll.symm⟩)

/-- There is a directory above a path that makes a step. -/
theorem exists_parent_of_steps (nonempty : path.steps ≠ []) :
    ∃ above, path.parent = some above := by
  cases absolute : path.isAbsolute with
  | true => exact exists_parent absolute nonempty
  | false =>
      rw [parent]
      simp only [absolute, Bool.false_eq_true, if_false]
      cases here : path.startsHere with
      | true =>
          simp only [if_true]
          split
          · exact ⟨_, rfl⟩
          · exact ⟨_, rfl⟩
      | false =>
          simp only [Bool.false_eq_true, if_false, List.length_nil, List.drop_zero]
          split
          · next kept =>
            refine absurd (stepsOf_blanks ?_) nonempty
            intro segment listed
            exact List.dropWhile_eq_nil_iff.mp kept segment (List.mem_reverse.mpr listed)
          · exact ⟨_, rfl⟩

end Path

/-! ## Places -/

namespace FileTree

open ScriptBundle.Path (Component)

variable {base path above : Path}

theorem destination_eq_descend (workingDirectory : Location) (path : Path) :
    destination workingDirectory path = descend (origin workingDirectory path) path.steps := by
  rw [destination]
  cases absolute : path.isAbsolute with
  | true =>
      rw [Path.components_of_isAbsolute absolute, origin, if_pos absolute]
      rfl
  | false =>
      rcases Path.components_of_not_isAbsolute absolute with shape | shape
      · rw [shape]
      · rw [shape]
        rfl

theorem destination_of_empty (empty : path.text = "") (workingDirectory : Location) :
    destination workingDirectory path = workingDirectory := by
  rw [destination_eq_descend, Path.steps_of_empty empty, origin, Path.isAbsolute_of_empty empty]
  rfl

/-- A joined path leads from where the first path leads. -/
theorem destination_join (workingDirectory : Location) (base path : Path) :
    destination workingDirectory (base.join path) =
      destination (destination workingDirectory base) path := by
  cases absolute : path.isAbsolute with
  | true =>
      rw [Path.join, if_pos absolute]
      exact destination_of_isAbsolute absolute _ _
  | false =>
      by_cases empty : base.text = ""
      · rw [Path.join_of_empty empty absolute, destination_of_empty empty]
      · have starts : origin workingDirectory (base.join path) = origin workingDirectory base := by
          rw [origin, origin, Path.isAbsolute_join_of_relative empty absolute]
        rw [destination_eq_descend, destination_eq_descend _ base, destination_eq_descend _ path,
          starts, Path.steps_join absolute, descend_append, origin, origin, absolute,
          if_neg Bool.false_ne_true]

/-- The directory above a path to a name leads where the path before the name
leads. -/
theorem exists_parent_join {name : String} (isName : Path.IsName name.toList)
    (workingDirectory : Location) (base : Path) :
    ∃ above, (base.join ⟨name⟩).parent = some above ∧
      destination workingDirectory above = destination workingDirectory base := by
  have relative := isName.isAbsolute_eq_false
  have made : (base.join ⟨name⟩).steps = base.steps ++ [.name name.toList] := by
    rw [Path.steps_join relative, isName.steps_eq]
  have nonempty : (base.join ⟨name⟩).steps ≠ [] := by simp [made]
  rcases Path.exists_parent_of_steps nonempty with ⟨above, found⟩
  rcases Path.steps_parent found with ⟨steps, starts⟩
  have sameStart : above.isAbsolute = base.isAbsolute := by
    by_cases empty : base.text = ""
    · rw [starts, Path.join_of_empty empty relative, relative, Path.isAbsolute_of_empty empty]
    · rw [starts, Path.isAbsolute_join_of_relative empty relative]
  refine ⟨above, found, ?_⟩
  rw [destination_eq_descend, destination_eq_descend, steps, made, List.dropLast_concat, origin,
    origin, sameStart]

/-- A name that is found from a path is found from the directory that the path
leads to. -/
theorem LeadsToFile.of_join {tree : FileTree} {workingDirectory place location : Location}
    {name : String} (isName : Path.IsName name.toList)
    (directory : tree.resolve workingDirectory base = .ok place)
    (leads : tree.LeadsToFile workingDirectory (base.join ⟨name⟩) location) :
    tree.LeadsToFile place ⟨name⟩ location := by
  have relative := isName.isAbsolute_eq_false
  have single : Path.segmentsOf (Path.characters ⟨name⟩) = [name.toList] :=
    Path.segmentsOf_plain isName.plain
  rcases resolve_eq_ok_iff.mp directory with ⟨baseText, baseWalked⟩
  rcases resolve_eq_ok_iff.mp leads.resolved with ⟨isText, walked⟩
  rcases Path.segmentsOf_join baseText.nonempty relative with ⟨front, blanks, blank, cut, joined⟩
  rw [single] at joined
  rw [origin, Path.isAbsolute_join_of_relative baseText.nonempty relative, ← origin, joined,
    walk_append] at walked
  rcases walked with ⟨middle, before, last⟩
  rw [cut, walk_append] at baseWalked
  rcases baseWalked with ⟨reached, beforeAgain, rest⟩
  cases before.symm.trans beforeAgain
  rw [← eq_of_walk_blanks blank rest] at last
  have listed : name.toList ∈ Path.segmentsOf (base.join ⟨name⟩).characters := by
    rw [joined]
    simp
  refine ⟨resolve_eq_ok_iff.mpr ⟨⟨?_, ?_, ?_⟩, ?_⟩, leads.isFile⟩
  · intro empty
    exact isName.nonempty (by rw [show name = "" from empty]; rfl)
  · exact fun null => isText.noNull (Path.mem_text_of_mem_segment listed null)
  · have shorter := Path.byteCount_joinSegments_le (List.cons_ne_nil _ _)
      (List.singleton_sublist.mpr listed)
    rw [Path.joinSegments, Path.byteCount, Path.byteCount, Path.characters, String.ofList_toList,
      String.ofList_toList] at shorter
    exact Nat.le_trans shorter isText.fits
  · rw [origin, relative, if_neg Bool.false_ne_true, single]
    exact last

/-- Every name in a place is one that a file can have. -/
def Named (location : Location) : Prop :=
  ∀ name ∈ location, Path.IsName name.toList

theorem Named.descend {start : Location} (named : Named start) {parts : List Component}
    (areSteps : ∀ part ∈ parts, Path.IsStep part) : Named (descend start parts) := by
  induction parts generalizing start with
  | nil => exact named
  | cons part rest induction =>
      rcases List.forall_mem_cons.mp areSteps with ⟨first, others⟩
      have moved : Named (move start part) := by
        cases first with
        | up => exact fun name listed => named name (List.dropLast_subset _ listed)
        | name isName =>
            intro name listed
            rcases List.mem_append.mp listed with earlier | last
            · exact named name earlier
            · rw [List.mem_singleton.mp last, String.toList_ofList]
              exact isName
      exact induction moved others

/-- A path leads from a place with proper names to another. -/
theorem Named.destination {workingDirectory : Location} (named : Named workingDirectory)
    (path : Path) : Named (destination workingDirectory path) := by
  rw [destination_eq_descend]
  refine Named.descend ?_ fun part made => Path.isStep_of_mem_steps made
  rw [origin]
  split
  · exact List.forall_mem_nil _
  · exact named

end FileTree

theorem Path.joinSegments_eq_intercalate (segments : List (List Char)) :
    joinSegments segments = ['/'].intercalate segments := by
  induction segments with
  | nil => rfl
  | cons segment rest induction =>
      by_cases last : rest = []
      · subst last
        simp [joinSegments]
      · rw [joinSegments_cons last, induction, List.intercalate_cons_of_ne_nil last]
        simp

/-- The path of a working directory leads to it. -/
theorem World.place_workingPath {world : World}
    (named : FileTree.Named world.workingDirectory) :
    world.workingPath.place = world.workingDirectory := by
  have absolute := Bundler.isAbsolute_workingPath world
  have spelled : world.workingPath.characters =
      '/' :: Path.joinSegments (world.workingDirectory.map String.toList) := by
    rw [Path.joinSegments_eq_intercalate, workingPath, Path.characters, String.toList_append,
      String.toList_intercalate]
    rfl
  by_cases root : world.workingDirectory = []
  · rw [root] at spelled ⊢
    rw [Path.place, Path.components_of_isAbsolute absolute, Path.steps, spelled]
    rfl
  · have plain : ∀ segment ∈ world.workingDirectory.map String.toList, '/' ∉ segment := by
      intro segment listed
      rcases List.mem_map.mp listed with ⟨name, inside, rfl⟩
      exact (named name inside).plain
    have tail := Path.tail_of_characters (by simpa using root) plain spelled
    have areNames : ∀ segment ∈ world.workingPath.tail, Path.IsName segment := by
      rw [tail]
      intro segment listed
      rcases List.mem_map.mp listed with ⟨name, inside, rfl⟩
      exact named name inside
    rw [Path.place, Path.components_of_names absolute areNames, tail]
    change FileTree.descend [] ((world.workingDirectory.map String.toList).map .name) = _
    rw [FileTree.descend_names]
    simp [Function.comp_def]

end ScriptBundle
