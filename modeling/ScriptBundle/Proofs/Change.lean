import Mathlib.Data.List.TakeWhile
import ScriptBundle.Proofs.Walk

/-!
# Changes of a tree

Making directories and writing a file only add to a tree, except that a file
may take the place of another file.  What could be walked before can be walked
afterwards, and a file that was written is found by the path it was written to.
Removing a directory takes away what is below it, and nothing else.

Where a change happens is told by the steps of the path that it is given.
-/

namespace ScriptBundle.FileTree

variable {tree earlier middle later : FileTree} {workingDirectory start location : Location}
  {places : List Location}

@[simp]
theorem entryAt_root (tree : FileTree) : tree.entryAt [] = some .directory :=
  if_pos rfl

theorem hasDirectory_iff :
    tree.hasDirectory location = true ↔ tree.entryAt location = some .directory := by
  rw [hasDirectory, decide_eq_true_eq]

/-- Only a directory can be entered. -/
theorem hasDirectory_of_enter {current next : Location} {segment : List Char}
    (entered : tree.enter current segment = .ok next) : tree.hasDirectory current = true := by
  cases held : tree.hasDirectory current with
  | true => rfl
  | false => simp [enter, held] at entered

/-- Only the place that is set changes, unless it is the root. -/
theorem entryAt_put (tree : FileTree) (location : Location) (entry : Entry) {other : Location}
    (below : other ≠ []) :
    (tree.put location entry).entryAt other =
      if other = location then some entry else tree.entryAt other := by
  have lookup (entries : List (Location × Entry)) :
      (entries.map fun known => if known.1 = location then (location, entry) else known).find?
          (fun known => decide (known.1 = other)) =
        if other = location then
          (entries.find? fun known => decide (known.1 = location)).map fun _ => (location, entry)
        else entries.find? fun known => decide (known.1 = other) := by
    induction entries with
    | nil => simp
    | cons known rest induction =>
        rw [List.map_cons, List.find?_cons, induction, List.find?_cons, List.find?_cons]
        by_cases same : other = location
        · subst same
          by_cases here : known.1 = other <;> simp [here]
        · by_cases here : known.1 = location
          · have elsewhere : ¬ location = other := fun equal => same equal.symm
            simp [here, same, elsewhere]
          · simp [here, same]
  rw [entryAt, entryAt, if_neg below, if_neg below, put]
  by_cases known : (tree.entries.find? fun entry => decide (entry.1 = location)).isSome
  · rw [if_pos known]
    dsimp only
    rw [lookup]
    rcases Option.isSome_iff_exists.mp known with ⟨found, told⟩
    by_cases same : other = location <;> simp [same, told]
  · rw [if_neg known]
    dsimp only
    rw [List.find?_append]
    have absent := Option.not_isSome_iff_eq_none.mp known
    by_cases same : other = location
    · subst same
      simp [absent]
    · have elsewhere : ¬ location = other := fun equal => same equal.symm
      simp [same, elsewhere]

/-- A later tree holds what an earlier one held, except that files were written
to some places. -/
structure Keeps (places : List Location) (earlier later : FileTree) : Prop where
  directory : ∀ location, earlier.entryAt location = some .directory →
    later.entryAt location = some .directory
  file : ∀ location content, earlier.entryAt location = some (.file content) →
    location ∉ places → later.entryAt location = some (.file content)
  written : ∀ location content, earlier.entryAt location = some (.file content) →
    ∃ other, later.entryAt location = some (.file other)

namespace Keeps

theorem isSome (keeps : Keeps places earlier later)
    (present : (earlier.entryAt location).isSome = true) :
    (later.entryAt location).isSome = true := by
  rcases Option.isSome_iff_exists.mp present with ⟨_ | _, held⟩
  · rcases keeps.written location _ held with ⟨other, there⟩
    rw [there]
    rfl
  · rw [keeps.directory location held]
    rfl

theorem hasDirectory (keeps : Keeps places earlier later)
    (directory : earlier.hasDirectory location = true) :
    later.hasDirectory location = true := by
  rw [hasDirectory_iff] at directory ⊢
  exact keeps.directory location directory

/-- A child that could be entered can be entered afterwards. -/
theorem enter (keeps : Keeps places earlier later) {current next : Location}
    {segment : List Char} (entered : earlier.enter current segment = .ok next) :
    later.enter current segment = .ok next := by
  have directory := hasDirectory_of_enter entered
  rw [enter_eq directory] at entered
  rw [enter_eq (keeps.hasDirectory directory)]
  exact entered

/-- What could be walked before can be walked afterwards. -/
theorem walk (keeps : Keeps places earlier later) {segments : List (List Char)}
    (walked : earlier.walk start segments = .ok location) :
    later.walk start segments = .ok location := by
  induction segments generalizing start with
  | nil => exact walked
  | cons segment rest induction =>
      rcases walk_cons.mp walked with ⟨next, stepped, further⟩
      rcases step_eq_ok_iff.mp stepped with ⟨entered, present⟩
      apply walk_cons.mpr
      refine ⟨next, ?_, induction further⟩
      exact step_eq_ok_iff.mpr ⟨keeps.enter entered, keeps.isSome present⟩

/-- A path leads where it led before. -/
theorem resolve (keeps : Keeps places earlier later) {path : Path}
    (found : earlier.resolve workingDirectory path = .ok location) :
    later.resolve workingDirectory path = .ok location := by
  rcases resolve_eq_ok_iff.mp found with ⟨isText, walked⟩
  exact resolve_eq_ok_iff.mpr ⟨isText, keeps.walk walked⟩

theorem leadsToFile (keeps : Keeps places earlier later) {path : Path}
    (leads : earlier.LeadsToFile workingDirectory path location) :
    later.LeadsToFile workingDirectory path location := by
  rcases leads.isFile with ⟨content, held⟩
  exact ⟨keeps.resolve leads.resolved, keeps.written location content held⟩

end Keeps

/-! ## Layers of changes -/

theorem lookup_singleton (place location : Location) (content : ByteArray) :
    [(place, content)].lookup location = if location = place then some content else none := by
  rw [List.lookup_cons]
  by_cases same : location = place
  · simp [same]
  · simp [same, beq_eq_false_iff_ne.mpr same]

/-- What a tree holds once directories were made in it and files were written
to it, the latest first. -/
structure Overlay (files : List (Location × ByteArray)) (made : List Location)
    (earlier later : FileTree) : Prop where
  entryAt_eq : ∀ location, later.entryAt location =
    match files.lookup location with
    | some content => some (.file content)
    | none => if location ∈ made then some .directory else earlier.entryAt location
  /-- A directory is made where nothing was. -/
  fresh : ∀ location ∈ made, earlier.entryAt location = none
  /-- No file takes the place of a directory. -/
  spared : ∀ location, earlier.entryAt location = some .directory → files.lookup location = none
  apart : ∀ location ∈ made, files.lookup location = none

namespace Overlay

variable {files moreFiles : List (Location × ByteArray)} {made moreMade : List Location}

theorem refl (tree : FileTree) : Overlay [] [] tree tree where
  entryAt_eq location := by simp
  fresh location listed := absurd listed List.not_mem_nil
  spared location _ := rfl
  apart location _ := rfl

/-- A place that holds nothing held nothing, and nothing was put there. -/
theorem absent_of_absent (overlay : Overlay files made earlier later)
    (absent : later.entryAt location = none) :
    files.lookup location = none ∧ location ∉ made ∧ earlier.entryAt location = none := by
  have held := overlay.entryAt_eq location
  rw [absent] at held
  cases written : files.lookup location with
  | some content =>
      rw [written] at held
      cases held
  | none =>
      rw [written] at held
      by_cases here : location ∈ made
      · simp [here] at held
      · exact ⟨rfl, here, by simpa [here] using held.symm⟩

theorem directory_of_made (overlay : Overlay files made earlier later)
    (listed : location ∈ made) : later.entryAt location = some .directory := by
  rw [overlay.entryAt_eq location, overlay.apart location listed]
  exact if_pos listed

/-- Changes that come one after the other are one change. -/
theorem trans (first : Overlay files made earlier middle)
    (second : Overlay moreFiles moreMade middle later) :
    Overlay (moreFiles ++ files) (moreMade ++ made) earlier later := by
  constructor
  · intro location
    rw [second.entryAt_eq location, List.lookup_append]
    cases latest : moreFiles.lookup location with
    | some content => rfl
    | none =>
        by_cases here : location ∈ moreMade
        · rcases first.absent_of_absent (second.fresh location here) with ⟨unwritten, -, -⟩
          simp [here, unwritten]
        · rw [first.entryAt_eq location]
          cases written : files.lookup location <;> simp [here]
  · intro location listed
    rcases List.mem_append.mp listed with late | early
    · exact (first.absent_of_absent (second.fresh location late)).2.2
    · exact first.fresh location early
  · intro location held
    have unwritten := first.spared location held
    have still : middle.entryAt location = some .directory := by
      rw [first.entryAt_eq location, unwritten, held]
      simp
    rw [List.lookup_append, second.spared location still, unwritten]
    rfl
  · intro location listed
    rw [List.lookup_append]
    rcases List.mem_append.mp listed with late | early
    · rw [second.apart location late,
        (first.absent_of_absent (second.fresh location late)).1]
      rfl
    · rw [second.spared location (first.directory_of_made early), first.apart location early]
      rfl

/-- A change that only adds keeps what it does not replace. -/
theorem keeps (overlay : Overlay files made earlier later) :
    Keeps (files.map Prod.fst) earlier later := by
  have held_of_unwritten {location : Location} {held : Entry}
      (unwritten : files.lookup location = none)
      (holds : earlier.entryAt location = some held) : later.entryAt location = some held := by
    have old : location ∉ made := by
      intro listed
      rw [overlay.fresh location listed] at holds
      cases holds
    rw [overlay.entryAt_eq location, unwritten, ← holds]
    exact if_neg old
  constructor
  · intro location holds
    exact held_of_unwritten (overlay.spared location holds) holds
  · intro location content holds outside
    apply held_of_unwritten _ holds
    rw [List.lookup_eq_none_iff]
    intro written listed
    rw [bne_iff_ne]
    rintro rfl
    exact outside (List.mem_map_of_mem listed)
  · intro location content holds
    cases written : files.lookup location with
    | some other =>
        refine ⟨other, ?_⟩
        rw [overlay.entryAt_eq location, written]
    | none => exact ⟨content, held_of_unwritten written holds⟩

/-- A file is put where no directory is. -/
theorem putFile {place : Location} (content : ByteArray)
    (free : tree.entryAt place ≠ some .directory) :
    Overlay [(place, content)] [] tree (tree.put place (.file content)) := by
  have below : place ≠ [] := by
    rintro rfl
    exact free tree.entryAt_root
  constructor
  · intro location
    rw [lookup_singleton]
    by_cases same : location = place
    · rw [if_pos same, entryAt_put tree place _ (same ▸ below), if_pos same]
    · by_cases root : location = []
      · subst root
        simp [same]
      · rw [if_neg same, entryAt_put tree place _ root, if_neg same]
        rfl
  · intro location listed
    cases listed
  · intro location held
    rw [lookup_singleton, if_neg]
    rintro rfl
    exact free held
  · intro location listed
    cases listed

/-- A directory is put where nothing is. -/
theorem putDirectory {place : Location} (absent : tree.entryAt place = none) :
    Overlay [] [place] tree (tree.put place .directory) := by
  constructor
  · intro location
    by_cases root : location = []
    · subst root
      simp
    · rw [entryAt_put tree place _ root]
      simp
  · intro location listed
    rw [List.mem_singleton.mp listed]
    exact absent
  · intro location _
    rfl
  · intro location _
    rfl

end Overlay

/-- The place that the steps of a path lead to. -/
def destination (workingDirectory : Location) (path : Path) : Location :=
  descend (origin workingDirectory path) path.components

theorem destination_of_isAbsolute {path : Path} (absolute : path.isAbsolute = true)
    (left right : Location) : destination left path = destination right path := by
  rw [destination, destination, origin, origin, if_pos absolute, if_pos absolute]

/-- Where an absolute path leads does not depend on the working directory. -/
theorem resolve_of_isAbsolute {path : Path} (absolute : path.isAbsolute = true) (tree : FileTree)
    (left right : Location) : tree.resolve left path = tree.resolve right path := by
  simp only [resolve, startOf, absolute, if_true]

theorem LeadsToFile.of_isAbsolute {path : Path}
    (leads : tree.LeadsToFile workingDirectory path location) (absolute : path.isAbsolute = true)
    (other : Location) : tree.LeadsToFile other path location := by
  refine ⟨?_, leads.isFile⟩
  rw [resolve_of_isAbsolute absolute tree other workingDirectory]
  exact leads.resolved

/-- The segments that a path is walked by lead to its destination. -/
theorem descend_of_startOf {path : Path} {segments : List (List Char)}
    (started : startOf workingDirectory path = .ok (start, segments)) :
    descend start ((segments.filter (!Path.isBlank ·)).map Path.Component.ofSegment) =
      destination workingDirectory path := by
  simp only [startOf] at started
  split at started
  · cases started
  split at started
  · cases started
  split at started
  · cases started
  split at started
  · next absolute =>
    cases started
    rcases Path.isAbsolute_iff.mp absolute with ⟨rest, spelled⟩
    rw [destination, origin, if_pos absolute, Path.components_of_isAbsolute absolute, Path.steps,
      spelled, Path.segmentsOf_slash_cons]
    rfl
  · next relative =>
    cases started
    rw [destination, origin, if_neg relative]
    rcases Path.components_of_not_isAbsolute (Bool.eq_false_iff.mpr relative) with shape | shape
    · rw [shape]
      rfl
    · rw [shape]
      rfl

/-- A name leads to the child of that name. -/
theorem enter_eq_child {current next : Location} {segment : List Char}
    (entered : tree.enter current segment = .ok next) (filled : Path.isBlank segment = false)
    (down : segment ≠ ['.', '.']) :
    next = current ++ [String.ofList segment] := by
  rw [enter_eq (hasDirectory_of_enter entered), filled, if_neg Bool.false_ne_true,
    if_neg down] at entered
  split at entered
  · cases entered
  · exact (Except.ok.inj entered).symm

/-- Segments end in blank ones that are dropped, and before these in a name or
in nothing. -/
theorem dropLastBlanks (segments : List (List Char)) :
    (segments.reverse.dropWhile (· = [])).reverse = [] ∨
      ∃ before last blanks, segments = before ++ last :: blanks ∧
        (∀ segment ∈ blanks, segment = []) ∧ last ≠ [] ∧
        (segments.reverse.dropWhile (· = [])).reverse = before ++ [last] := by
  have cut := List.takeWhile_append_dropWhile
    (p := fun segment => decide (segment = [])) (l := segments.reverse)
  have filled := List.head?_dropWhile_not (fun segment => decide (segment = [])) segments.reverse
  cases kept : segments.reverse.dropWhile fun segment => decide (segment = []) with
  | nil => exact .inl rfl
  | cons last rest =>
      rw [kept] at cut filled
      simp only [List.head?_cons, decide_eq_false_iff_not] at filled
      refine .inr ⟨rest.reverse, last,
        (segments.reverse.takeWhile fun segment => decide (segment = [])).reverse, ?_, ?_, filled,
        List.reverse_cons⟩
      · simpa using (congrArg List.reverse cut).symm
      · intro segment listed
        simpa using List.mem_takeWhile_imp (List.mem_reverse.mp listed)

/-- The place that a path names is a name in a directory that the rest of the
path leads to; only blank segments may come after the name. -/
theorem placeOf_eq_ok {path : Path} {refused : FileError} {trailingSlash : Option FileError}
    {place : Location}
    (named : tree.placeOf workingDirectory path refused trailingSlash = .ok place) :
    ∃ start before last blanks parent,
      startOf workingDirectory path = .ok (start, before ++ last :: blanks) ∧
      (∀ segment ∈ blanks, segment = []) ∧ (trailingSlash.isSome = true → blanks = []) ∧
      tree.walk start before = .ok parent ∧ tree.enter parent last = .ok place ∧
      Path.isBlank last = false ∧ last ≠ ['.', '.'] := by
  rw [placeOf] at named
  cases started : startOf workingDirectory path with
  | error cause => simp [started, bind, Except.bind] at named
  | ok begun =>
      rcases begun with ⟨start, segments⟩
      simp only [started, bind, Except.bind] at named
      rcases dropLastBlanks segments with
        nothing | ⟨before, last, blanks, rfl, blank, filled, kept⟩
      · rw [nothing] at named
        simp only [List.dropLast_nil, FileTree.walk, List.getLast?_nil] at named
        cases named
      · rw [kept, List.dropLast_concat, List.getLast?_concat] at named
        cases walked : tree.walk start before with
        | error cause => simp [walked] at named
        | ok parent =>
            cases entered : tree.enter parent last with
            | error cause => simp [walked, entered] at named
            | ok reached =>
                simp only [walked, entered, List.length_append, List.length_cons,
                  List.length_nil] at named
                split at named
                · cases named
                · next plain =>
                  simp only [Bool.or_eq_true, decide_eq_true_eq, not_or] at plain
                  have notBlank : Path.isBlank last = false := by
                    simp [Path.isBlank, filled, plain.1]
                  have told : reached = place ∧ (trailingSlash.isSome = true → blanks = []) := by
                    split at named
                    · cases trailingSlash with
                      | none => exact ⟨Except.ok.inj named, fun demanded => by cases demanded⟩
                      | some failure => cases named
                    · next long =>
                      refine ⟨Except.ok.inj named, fun _ => ?_⟩
                      rw [← List.length_eq_zero_iff]
                      omega
                  rcases told with ⟨rfl, whole⟩
                  exact ⟨start, before, last, blanks, parent, rfl, blank, whole, walked, entered,
                    notBlank, plain.2⟩

theorem placeOf_eq_destination {path : Path} {refused : FileError}
    {trailingSlash : Option FileError} {place : Location}
    (named : tree.placeOf workingDirectory path refused trailingSlash = .ok place) :
    place = destination workingDirectory path := by
  rcases placeOf_eq_ok named with
    ⟨start, before, last, blanks, parent, started, blank, -, walked, entered, filled, down⟩
  have noSteps : blanks.filter (!Path.isBlank ·) = [] := by
    rw [List.filter_eq_nil_iff]
    intro segment listed
    rw [blank segment listed]
    decide
  rw [← descend_of_startOf started, enter_eq_child entered filled down, List.filter_append,
    List.filter_cons_of_pos (by simp [filled]), noSteps, List.map_append, descend_append,
    ← walk_eq_descend walked, List.map_singleton, Path.Component.ofSegment, if_neg down]
  rfl

/-! ## Making directories -/

/-- To make a directory adds it, where its path leads. -/
theorem makeDirectory_eq_ok {path : Path}
    (made : tree.makeDirectory workingDirectory path = .ok later) :
    Overlay [] [destination workingDirectory path] tree later := by
  rw [makeDirectory] at made
  cases named : tree.placeOf workingDirectory path .alreadyExists none with
  | error cause => simp [named, bind, Except.bind] at made
  | ok place =>
      cases held : tree.entryAt place with
      | some entry => simp [named, held, bind, Except.bind] at made
      | none =>
          simp only [named, held, bind, Except.bind, pure, Except.pure, Except.ok.injEq] at made
          subst made
          rw [← placeOf_eq_destination named]
          exact .putDirectory held

/-- Directories that are made add nothing but themselves, also if one of them cannot
be made. -/
theorem makeMissing_overlay {missing : List Path} {result : Except FileError Unit}
    (made : makeMissing workingDirectory tree missing = (later, result)) :
    ∃ places, places ⊆ missing.map (destination workingDirectory) ∧
      Overlay [] places tree later := by
  induction missing generalizing tree with
  | nil =>
      cases made
      exact ⟨[], List.nil_subset _, .refl _⟩
  | cons path rest induction =>
      rw [makeMissing] at made
      split at made
      · next changed one =>
        rcases induction made with ⟨places, listed, overlay⟩
        refine ⟨places ++ [destination workingDirectory path], ?_,
          (makeDirectory_eq_ok one).trans overlay⟩
        rw [List.map_cons]
        apply List.append_subset.mpr
        exact ⟨List.subset_cons_of_subset _ listed, List.cons_subset_cons _ (List.nil_subset _)⟩
      · next failure one =>
        split at made
        · rcases induction made with ⟨places, listed, overlay⟩
          exact ⟨places, List.subset_cons_of_subset _ listed, overlay⟩
        · cases made
          exact ⟨[], List.nil_subset _, .refl _⟩

theorem makeUpwards_overlay {missing above : List Path} {result : Except FileError Unit}
    (made : makeUpwards workingDirectory tree missing above = (later, result)) :
    ∃ places, places ⊆ (missing ++ above).map (destination workingDirectory) ∧
      Overlay [] places tree later := by
  induction above generalizing missing with
  | nil =>
      rw [List.append_nil]
      exact makeMissing_overlay made
  | cons path rest induction =>
      have missing_subset : missing.map (destination workingDirectory) ⊆
          (missing ++ path :: rest).map (destination workingDirectory) := by
        rw [List.map_append]
        exact List.subset_append_left _ _
      rw [makeUpwards] at made
      split at made
      · next changed one =>
        rcases makeMissing_overlay made with ⟨places, listed, overlay⟩
        refine ⟨places ++ [destination workingDirectory path], ?_,
          (makeDirectory_eq_ok one).trans overlay⟩
        apply List.append_subset.mpr
        refine ⟨List.Subset.trans listed missing_subset, ?_⟩
        simp
      · rcases induction made with ⟨places, listed, overlay⟩
        refine ⟨places, List.Subset.trans listed ?_, overlay⟩
        intro place member
        simpa [or_left_comm, or_assoc, or_comm] using member
      · next failure _ one =>
        split at made
        · rcases makeMissing_overlay made with ⟨places, listed, overlay⟩
          exact ⟨places, List.Subset.trans listed missing_subset, overlay⟩
        · cases made
          exact ⟨[], List.nil_subset _, .refl _⟩

theorem ancestorsOf_isAbsolute {path : Path} (absolute : path.isAbsolute = true) (fuel : Nat) :
    ∀ above ∈ ancestorsOf fuel path, above.isAbsolute = true := by
  induction fuel generalizing path with
  | zero =>
      intro above listed
      cases listed
  | succ fuel induction =>
      intro above listed
      rw [ancestorsOf] at listed
      split at listed
      · cases listed
      · cases found : path.parent with
        | none =>
            rw [found] at listed
            cases listed
        | some parent =>
            rw [found] at listed
            rcases List.mem_cons.mp listed with rfl | higher
            · exact absolute
            · exact induction (Path.isAbsolute_of_parent absolute found) above higher

/-- The places of a directory and of those above it, told by the path of the
directory. -/
def trail (workingDirectory : Location) (path : Path) : List Location :=
  (ancestorsOf (path.characters.length + 1) path).map (destination workingDirectory)

theorem trail_of_isAbsolute {path : Path} (absolute : path.isAbsolute = true)
    (left right : Location) : trail left path = trail right path := by
  apply List.map_congr_left
  intro above listed
  exact destination_of_isAbsolute (ancestorsOf_isAbsolute absolute _ above listed) left right

/-- Making directories adds directories where nothing was, also when it fails. -/
theorem makeDirectories_overlay {path : Path} {result : Except FileError Unit}
    (made : tree.makeDirectories workingDirectory path = (later, result)) :
    ∃ places, places ⊆ trail workingDirectory path ∧ Overlay [] places tree later := by
  rw [makeDirectories] at made
  exact makeUpwards_overlay made

/-- A file that was written is found by its path, and nothing else changed. -/
theorem writeFile_eq_ok {path : Path} {content : ByteArray}
    (wrote : tree.writeFile workingDirectory path content = .ok later) :
    later.resolve workingDirectory path = .ok (destination workingDirectory path) ∧
      Overlay [(destination workingDirectory path, content)] [] tree later := by
  rw [writeFile] at wrote
  cases named : tree.placeOf workingDirectory path .isDirectory (some .isDirectory) with
  | error cause => simp [named, bind, Except.bind] at wrote
  | ok place =>
      have free : tree.entryAt place ≠ some .directory := by
        intro held
        simp [named, held, bind, Except.bind] at wrote
      have changed : later = tree.put place (.file content) := by
        cases held : tree.entryAt place with
        | none =>
            simp only [named, held, bind, Except.bind] at wrote
            exact (Except.ok.inj wrote).symm
        | some entry =>
            cases entry with
            | directory => exact absurd held free
            | file old =>
                simp only [named, held, bind, Except.bind] at wrote
                exact (Except.ok.inj wrote).symm
      have overlay : Overlay [(place, content)] [] tree later := by
        rw [changed]
        exact .putFile content free
      have held : later.entryAt place = some (.file content) := by
        rw [overlay.entryAt_eq place, lookup_singleton, if_pos rfl]
      rcases placeOf_eq_ok named with
        ⟨start, before, last, blanks, parent, started, -, whole, walked, entered, -, -⟩
      rw [whole rfl] at started
      rw [← placeOf_eq_destination named]
      refine ⟨?_, overlay⟩
      rw [resolve, started]
      apply walk_append.mpr
      refine ⟨parent, overlay.keeps.walk walked, ?_⟩
      apply walk_cons.mpr
      refine ⟨place, step_eq_ok_iff.mpr ⟨overlay.keeps.enter entered, ?_⟩, rfl⟩
      rw [held]
      rfl

/-- Nothing is left at a place that was removed, nor below it. -/
theorem entryAt_removeBelow (tree : FileTree) (place : Location) {other : Location}
    (below : other ≠ []) :
    (tree.removeBelow place).entryAt other =
      if place <+: other then none else tree.entryAt other := by
  rw [entryAt, entryAt, if_neg below, if_neg below, removeBelow, List.find?_filter]
  by_cases inside : place <+: other
  · rw [if_pos inside, List.find?_eq_none.mpr]
    · rfl
    · intro known _ here
      simp only [Bool.not_eq_true', decide_eq_true_eq] at here
      rcases here with ⟨outside, rfl⟩
      rw [List.isPrefixOf_iff_prefix.mpr inside] at outside
      cases outside
  · rw [if_neg inside]
    congr 2
    funext known
    by_cases here : known.1 = other
    · have outside : place.isPrefixOf other = false := by
        rw [Bool.eq_false_iff, ne_eq, List.isPrefixOf_iff_prefix]
        exact inside
      simp [here, outside]
    · simp [here]

/-- A directory is removed with all that is below it. -/
theorem removeDirectory_eq_ok {path : Path}
    (removed : tree.removeDirectory workingDirectory path = .ok later) :
    tree.entryAt (destination workingDirectory path) = some .directory ∧
      later = tree.removeBelow (destination workingDirectory path) := by
  rw [removeDirectory] at removed
  cases found : tree.resolve workingDirectory path with
  | error cause => simp [found, bind, Except.bind] at removed
  | ok location =>
      have here : location = destination workingDirectory path := resolve_eq_descend found
      simp only [found, bind, Except.bind] at removed
      split at removed
      · next directory =>
        rw [← here]
        exact ⟨hasDirectory_iff.mp directory, (Except.ok.inj removed).symm⟩
      · cases removed

end ScriptBundle.FileTree
