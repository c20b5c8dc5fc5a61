import ScriptBundle.FileTree
import ScriptBundle.Proofs.NormalForm

/-!
# Walking and normalizing

A tree without links is walked without surprises: where a walk ends is told by
the steps alone, and the tree only decides whether the walk is possible.  So
the normalized path, which makes some of the steps of a path and leaves out
detours, leads to the file the path leads to.
-/

namespace ScriptBundle.FileTree

open ScriptBundle.Path (Component)

/-- The place a component leads to from another place, whatever is there. -/
def move (current : Location) : Component → Location
  | .root => []
  | .here => current
  | .up => current.dropLast
  | .name text => current ++ [String.ofList text]

/-- The place that components lead to. -/
def descend (start : Location) (parts : List Component) : Location :=
  parts.foldl move start

theorem descend_append (start : Location) (left right : List Component) :
    descend start (left ++ right) = descend (descend start left) right :=
  List.foldl_append

/-- Normalizing does not change where components lead. -/
theorem descend_normalizeComponents (start : Location) (parts : List Component) :
    descend start (Path.normalizeComponents parts) = descend start parts := by
  -- the stack leads where the components that were read lead
  have stack : ∀ kept : List Component,
      descend start (parts.foldl Path.normalizeStep kept).reverse =
        descend (descend start kept.reverse) parts := by
    induction parts with
    | nil =>
        intro kept
        rfl
    | cons part rest induction =>
        intro kept
        have moved : descend start (Path.normalizeStep kept part).reverse =
            move (descend start kept.reverse) part := by
          cases part with
          | root => simp [Path.normalizeStep, descend]
          | here => rfl
          | name text => simp [Path.normalizeStep, descend]
          | up =>
              rcases kept with _ | ⟨last, before⟩
              · rfl
              · cases last <;> simp [Path.normalizeStep, descend, move]
        rw [List.foldl_cons, induction, moved]
        rfl
  exact stack []

@[simp]
theorem hasDirectory_root (tree : FileTree) : tree.hasDirectory [] = true := by
  simp [hasDirectory, entryAt]

theorem walk_cons {tree : FileTree} {start location : Location} {segment : List Char}
    {rest : List (List Char)} :
    tree.walk start (segment :: rest) = .ok location ↔
      ∃ next, tree.step start segment = .ok next ∧ tree.walk next rest = .ok location := by
  rw [walk]
  cases tree.step start segment <;> simp [bind, Except.bind]

theorem walk_append {tree : FileTree} {start location : Location}
    {left right : List (List Char)} :
    tree.walk start (left ++ right) = .ok location ↔
      ∃ middle, tree.walk start left = .ok middle ∧
        tree.walk middle right = .ok location := by
  induction left generalizing start with
  | nil => simp [walk]
  | cons segment rest induction =>
      rw [List.cons_append, walk_cons]
      constructor
      · rintro ⟨next, stepped, walked⟩
        rcases induction.mp walked with ⟨middle, first, second⟩
        exact ⟨middle, walk_cons.mpr ⟨next, stepped, first⟩, second⟩
      · rintro ⟨middle, first, second⟩
        rcases walk_cons.mp first with ⟨next, stepped, walked⟩
        exact ⟨next, stepped, induction.mpr ⟨middle, walked, second⟩⟩

theorem step_eq_ok_iff {tree : FileTree} {current next : Location} {segment : List Char} :
    tree.step current segment = .ok next ↔
      tree.enter current segment = .ok next ∧ (tree.entryAt next).isSome := by
  rw [step]
  cases entered : tree.enter current segment with
  | error cause => simp [bind, Except.bind]
  | ok reached =>
      simp only [bind, Except.bind, Except.ok.injEq]
      by_cases found : (tree.entryAt reached).isSome
      · rw [if_pos found]
        constructor
        · intro same
          cases same
          exact ⟨rfl, found⟩
        · rintro ⟨rfl, -⟩
          rfl
      · rw [if_neg found]
        constructor
        · intro same
          cases same
        · rintro ⟨rfl, exists_⟩
          exact absurd exists_ found

theorem hasDirectory_of_step {tree : FileTree} {current next : Location} {segment : List Char}
    (stepped : tree.step current segment = .ok next) :
    tree.hasDirectory current = true := by
  cases directory : tree.hasDirectory current with
  | true => rfl
  | false =>
      have entered := (step_eq_ok_iff.mp stepped).1
      simp [enter, directory] at entered

theorem enter_eq {tree : FileTree} {current : Location}
    (directory : tree.hasDirectory current = true) (segment : List Char) :
    tree.enter current segment =
      if Path.isBlank segment then .ok current
      else if segment = ['.', '.'] then .ok current.dropLast
      else if (String.ofList segment).utf8ByteSize > nameLimit then .error .nameTooLong
      else .ok (current ++ [String.ofList segment]) := by
  simp only [enter, directory, Bool.not_true, Bool.false_eq_true, if_false]
  rfl

/-- A step leads where its component leads; a blank segment leads nowhere
else. -/
theorem step_eq {tree : FileTree} {current next : Location} {segment : List Char}
    (stepped : tree.step current segment = .ok next) :
    next = if Path.isBlank segment then current else move current (.ofSegment segment) := by
  have entered := (step_eq_ok_iff.mp stepped).1
  rw [enter_eq (hasDirectory_of_step stepped)] at entered
  by_cases blank : Path.isBlank segment = true
  · rw [if_pos blank] at entered ⊢
    exact (Except.ok.inj entered).symm
  · rw [if_neg blank] at entered ⊢
    rw [Component.ofSegment]
    by_cases up : segment = ['.', '.']
    · rw [if_pos up] at entered ⊢
      exact (Except.ok.inj entered).symm
    · rw [if_neg up] at entered ⊢
      split at entered
      · cases entered
      · exact (Except.ok.inj entered).symm

/-- A walk ends where its steps lead. -/
theorem walk_eq_descend {tree : FileTree} {start location : Location}
    {segments : List (List Char)} (walked : tree.walk start segments = .ok location) :
    location = descend start
      ((segments.filter (!Path.isBlank ·)).map Component.ofSegment) := by
  induction segments generalizing start with
  | nil => exact (Except.ok.inj walked).symm
  | cons segment rest induction =>
      rcases walk_cons.mp walked with ⟨next, stepped, later⟩
      rw [induction later, step_eq stepped]
      cases blank : Path.isBlank segment <;> simp [blank, descend]

/-- The place a path starts from. -/
def origin (workingDirectory : Location) (path : Path) : Location :=
  if path.isAbsolute then [] else workingDirectory

/-- What is demanded of the text of a path. -/
structure IsPathText (path : Path) : Prop where
  nonempty : path.text ≠ ""
  noNull : '\x00' ∉ path.characters
  fits : path.text.utf8ByteSize ≤ pathLimit

/-- A path leads to a place if its text is one of a path and its segments can
be walked. -/
theorem resolve_eq_ok_iff {tree : FileTree} {workingDirectory location : Location} {path : Path} :
    tree.resolve workingDirectory path = .ok location ↔
      IsPathText path ∧
        tree.walk (origin workingDirectory path) (Path.segmentsOf path.characters) =
          .ok location := by
  by_cases empty : path.text = ""
  · have noText : ¬ IsPathText path := fun isText => isText.nonempty empty
    simp [resolve, startOf, empty, noText, bind, Except.bind]
  by_cases null : '\x00' ∈ path.characters
  · have noText : ¬ IsPathText path := fun isText => isText.noNull null
    simp [resolve, startOf, empty, null, noText, bind, Except.bind]
  by_cases long : path.text.utf8ByteSize > pathLimit
  · have noText : ¬ IsPathText path := fun isText => Nat.not_lt.mpr isText.fits long
    simp [resolve, startOf, empty, null, long, noText, bind, Except.bind]
  have isText : IsPathText path := ⟨empty, null, Nat.not_lt.mp long⟩
  cases absolute : path.isAbsolute with
  | false =>
      simp [resolve, startOf, empty, null, long, isText, absolute, origin, bind, Except.bind]
  | true =>
      rcases Path.isAbsolute_iff.mp absolute with ⟨rest, spelled⟩
      -- the segment before the leading slash does not leave the root
      have stays : tree.step [] [] = .ok [] :=
        step_eq_ok_iff.mpr ⟨by simp [enter], by simp [entryAt]⟩
      have null' : '\x00' ∉ rest := by simpa [spelled] using null
      simp [resolve, startOf, empty, null', long, isText, absolute, origin, spelled, walk_cons,
        stays, bind, Except.bind]

/-- A path that leads somewhere leads where its components lead. -/
theorem resolve_eq_descend {tree : FileTree} {workingDirectory location : Location} {path : Path}
    (found : tree.resolve workingDirectory path = .ok location) :
    location = descend (origin workingDirectory path) path.components := by
  have walked := walk_eq_descend (resolve_eq_ok_iff.mp found).2
  change location = descend (origin workingDirectory path) path.steps at walked
  cases absolute : path.isAbsolute with
  | true =>
      rw [walked, Path.components_of_isAbsolute absolute]
      simp [origin, absolute, descend, move]
  | false =>
      rcases Path.components_of_not_isAbsolute absolute with shape | shape
      · rw [walked, shape]
      · rw [walked, shape]
        rfl

theorem isSome_of_walk {tree : FileTree} {start location : Location} {segments : List (List Char)}
    (present : (tree.entryAt start).isSome = true)
    (walked : tree.walk start segments = .ok location) :
    (tree.entryAt location).isSome = true := by
  induction segments generalizing start with
  | nil =>
      cases walked
      exact present
  | cons segment rest induction =>
      rcases walk_cons.mp walked with ⟨next, stepped, further⟩
      exact induction (step_eq_ok_iff.mp stepped).2 further

/-! ## Walking to a normal form -/

/-- The walk to a stack of components is prolonged by one more step, or cut
short where the step goes back. -/
theorem walk_normalizeStep {tree : FileTree} {start current next : Location} {absolute : Bool}
    {kept : List Component} {component : Component}
    (normal : Path.IsNormal absolute kept.reverse) (rooted : absolute = true → start = [])
    (walked : tree.walk start (kept.reverse.map Component.segment) = .ok current)
    (step : Path.IsStep component)
    (stepped : tree.step current component.segment = .ok next) :
    tree.walk start ((Path.normalizeStep kept component).reverse.map Component.segment) =
      .ok next := by
  have pushed : tree.walk start ((component :: kept).reverse.map Component.segment) =
      .ok next := by
    rw [List.reverse_cons, List.map_append]
    exact walk_append.mpr ⟨current, walked, walk_cons.mpr ⟨next, stepped, rfl⟩⟩
  have moved : next = move current component := by
    have reached := step_eq stepped
    rwa [step.isBlank_segment, if_neg Bool.false_ne_true, step.ofSegment_segment] at reached
  cases step with
  | name isName => exact pushed
  | up =>
      rcases normal with ⟨base, names, isBase, areNames, shape⟩
      have unreversed : kept = (base ++ names.map Component.name).reverse := by
        rw [← shape, List.reverse_reverse]
      rcases List.eq_nil_or_concat names with rfl | ⟨before, last, rfl⟩
      · cases isBase with
        | root =>
            -- above the root is the root
            have keptRoot : kept = [.root] := unreversed
            subst keptRoot
            have atRoot : current = [] := (walk_eq_descend walked).trans (rooted rfl)
            have stays : next = current := by
              rw [moved, atRoot]
              rfl
            rw [stays]
            exact walked
        | ups count =>
            have keptUps : kept = List.replicate count .up := by simpa using unreversed
            rw [keptUps] at pushed ⊢
            cases count <;> exact pushed
      · rw [List.concat_eq_append] at areNames unreversed
        have isName : Path.IsName last := areNames last (by simp)
        have keptNames : kept = .name last :: (base ++ before.map Component.name).reverse := by
          simpa using unreversed
        subst keptNames
        rw [List.reverse_cons, List.reverse_reverse, List.map_append] at walked
        rcases walk_append.mp walked with ⟨middle, earlier, later⟩
        rcases walk_cons.mp later with ⟨reached, entered, finished⟩
        cases finished
        have down : current = middle ++ [String.ofList last] := by
          have reachedBy := step_eq entered
          rwa [Path.IsStep.isBlank_segment (.name isName), if_neg Bool.false_ne_true,
            Path.IsStep.ofSegment_segment (.name isName)] at reachedBy
        have back : next = middle := by
          rw [moved, down]
          simp [move]
        rw [back]
        simpa [Path.normalizeStep] using earlier

/-- What can be walked segment by segment can be walked by its normal form. -/
theorem walk_foldl_normalizeStep {tree : FileTree} {start current location : Location}
    {absolute : Bool} {kept : List Component} {segments : List (List Char)}
    (normal : Path.IsNormal absolute kept.reverse) (rooted : absolute = true → start = [])
    (plain : ∀ segment ∈ segments, '/' ∉ segment)
    (before : tree.walk start (kept.reverse.map Component.segment) = .ok current)
    (walked : tree.walk current segments = .ok location) :
    tree.walk start
      ((((segments.filter (!Path.isBlank ·)).map Component.ofSegment).foldl
        Path.normalizeStep kept).reverse.map Component.segment) = .ok location := by
  induction segments generalizing kept current with
  | nil =>
      cases walked
      exact before
  | cons segment rest induction =>
      rcases walk_cons.mp walked with ⟨next, stepped, later⟩
      have restPlain : ∀ other ∈ rest, '/' ∉ other :=
        fun other member => plain other (List.mem_cons_of_mem _ member)
      cases blank : Path.isBlank segment with
      | true =>
          have stays : next = current := by
            have reached := step_eq stepped
            rwa [if_pos blank] at reached
          rw [List.filter_cons_of_neg (by simp [blank])]
          exact induction normal restPlain before (stays ▸ later)
      | false =>
          have step : Path.IsStep (.ofSegment segment) :=
            Path.isStep_ofSegment blank (plain segment List.mem_cons_self)
          rw [List.filter_cons_of_pos (by simp [blank]), List.map_cons, List.foldl_cons]
          refine induction (Path.isNormal_normalizeStep normal step) restPlain ?_ later
          exact walk_normalizeStep normal rooted before step (by simpa using stepped)

theorem walk_normalizeComponents {tree : FileTree} {workingDirectory location : Location}
    {path : Path}
    (walked : tree.walk (origin workingDirectory path) (Path.segmentsOf path.characters) =
      .ok location) :
    tree.walk (origin workingDirectory path)
      ((Path.normalizeComponents path.components).map Component.segment) = .ok location := by
  have plain : ∀ segment ∈ Path.segmentsOf path.characters, '/' ∉ segment :=
    fun _ member => Path.slash_not_mem_segment member
  cases absolute : path.isAbsolute with
  | true =>
      have atRoot : origin workingDirectory path = [] := by simp [origin, absolute]
      rw [atRoot] at walked ⊢
      rw [Path.components_of_isAbsolute absolute, Path.normalizeComponents, List.foldl_cons]
      have stays : tree.walk [] [[]] = .ok [] :=
        walk_cons.mpr ⟨[], step_eq_ok_iff.mpr ⟨by simp [enter], by simp [entryAt]⟩, rfl⟩
      exact walk_foldl_normalizeStep Path.isNormal_root (fun _ => rfl) plain stays walked
  | false =>
      have relative : false = true → origin workingDirectory path = [] :=
        fun same => absurd same Bool.false_ne_true
      have atStart : tree.walk (origin workingDirectory path)
          (([] : List Component).reverse.map Component.segment) =
            .ok (origin workingDirectory path) := rfl
      have fromNil := walk_foldl_normalizeStep Path.isNormal_nil relative plain atStart walked
      rcases Path.components_of_not_isAbsolute absolute with shape | shape
      · rw [shape]
        exact fromNil
      · rw [shape]
        exact fromNil

/-- A blank step does not lead to a file. -/
theorem not_file_of_origin {tree : FileTree} {start : Location} {segments : List (List Char)}
    {location : Location} {content : ByteArray} (nonempty : segments ≠ [])
    (walked : tree.walk start segments = .ok location)
    (isFile : tree.entryAt location = some (.file content)) : location ≠ start := by
  rintro rfl
  rcases List.exists_cons_of_ne_nil nonempty with ⟨segment, rest, rfl⟩
  rcases walk_cons.mp walked with ⟨next, stepped, -⟩
  have directory := hasDirectory_of_step stepped
  simp [hasDirectory, isFile] at directory

/-- A path in normal form leads where its parts can be walked to, if some path
that has these among its segments is not too long. -/
theorem resolve_of_parts {tree : FileTree} {workingDirectory location : Location}
    {path target : Path} {absolute : Bool} {parts : List Component} (isText : IsPathText path)
    (normal : Path.IsNormal absolute parts) (spelling : target = .ofComponents parts)
    (nonempty : parts ≠ []) (filled : parts.map Component.segment ≠ [[]])
    (sublist : (parts.map Component.segment).Sublist (Path.segmentsOf path.characters))
    (walked : tree.walk (origin workingDirectory target) (parts.map Component.segment) =
      .ok location) :
    tree.resolve workingDirectory target = .ok location := by
  have cut := normal.segmentsOf_ofComponents nonempty filled
  rw [← spelling] at cut
  have spelled : target.characters = Path.joinSegments (parts.map Component.segment) := by
    rw [← cut, Path.joinSegments_segmentsOf]
  refine resolve_eq_ok_iff.mpr ⟨⟨?_, ?_, ?_⟩, ?_⟩
  · intro empty
    have noCharacters : target.characters = [] := by
      simp [Path.characters, empty]
    rw [noCharacters] at cut
    exact filled cut.symm
  · intro null
    rw [spelled] at null
    rcases Path.mem_joinSegments null with slash | ⟨segment, member, inside⟩
    · exact absurd slash (by decide)
    · exact isText.noNull (Path.mem_text_of_mem_segment (sublist.subset member) inside)
  · have shorter := Path.byteCount_joinSegments_le (by simpa using nonempty) sublist
    rw [← spelled, Path.byteCount, Path.byteCount, Path.characters, Path.characters,
      String.ofList_toList, String.ofList_toList] at shorter
    exact Nat.le_trans shorter isText.fits
  · rw [cut]
    exact walked

/-- The normalized path leads to the file that the path leads to. -/
theorem resolve_normalize {tree : FileTree} {workingDirectory location : Location} {path : Path}
    {content : ByteArray}
    (found : tree.resolve workingDirectory path = .ok location)
    (isFile : tree.entryAt location = some (.file content)) :
    tree.resolve workingDirectory path.normalize = .ok location := by
  rcases resolve_eq_ok_iff.mp found with ⟨isText, walked⟩
  have elsewhere : location ≠ origin workingDirectory path :=
    not_file_of_origin (Path.segmentsOf_ne_nil _) walked isFile
  have reached := walk_normalizeComponents walked
  have sublist : ((Path.normalizeComponents path.components).map Component.segment).Sublist
      (Path.segmentsOf path.characters) :=
    ((Path.normalizeComponents_sublist _).map _).trans (Path.map_segment_components_sublist path)
  have sameOrigin : origin workingDirectory path.normalize = origin workingDirectory path := by
    rw [origin, origin, Path.isAbsolute_normalize]
  -- a walk to a file is more than staying where it starts
  have nonempty : Path.normalizeComponents path.components ≠ [] := by
    intro empty
    rw [empty] at reached
    exact elsewhere (Except.ok.inj reached).symm
  have filled : (Path.normalizeComponents path.components).map Component.segment ≠ [[]] := by
    intro blank
    rw [blank] at reached
    exact elsewhere (walk_eq_descend reached)
  exact resolve_of_parts isText (Path.isNormal_normalizeComponents path) rfl nonempty filled sublist
    (sameOrigin ▸ reached)

theorem mem_files_of_entryAt {tree : FileTree} {location : Location} {content : ByteArray}
    (isFile : tree.entryAt location = some (.file content)) : location ∈ tree.files := by
  rw [entryAt] at isFile
  split at isFile
  · cases isFile
  · rcases Option.map_eq_some_iff.mp isFile with ⟨⟨place, entry⟩, found, rfl⟩
    have here : place = location := by simpa using List.find?_some found
    exact List.mem_filterMap.mpr ⟨_, List.mem_of_find?_eq_some found, by simp [here]⟩

/-- A path leads to the file at a place. -/
structure LeadsToFile (tree : FileTree) (workingDirectory : Location) (path : Path)
    (location : Location) : Prop where
  resolved : tree.resolve workingDirectory path = .ok location
  isFile : ∃ content, tree.entryAt location = some (.file content)

namespace LeadsToFile

variable {tree : FileTree} {workingDirectory location other : Location} {path : Path}

theorem unique (first : tree.LeadsToFile workingDirectory path location)
    (second : tree.LeadsToFile workingDirectory path other) : location = other :=
  Except.ok.inj (first.resolved.symm.trans second.resolved)

theorem normalize (leads : tree.LeadsToFile workingDirectory path location) :
    tree.LeadsToFile workingDirectory path.normalize location := by
  rcases leads.isFile with ⟨content, isFile⟩
  exact ⟨resolve_normalize leads.resolved isFile, content, isFile⟩

theorem mem_files (leads : tree.LeadsToFile workingDirectory path location) :
    location ∈ tree.files := by
  rcases leads.isFile with ⟨content, isFile⟩
  exact mem_files_of_entryAt isFile

end LeadsToFile

theorem lookup_eq_file_iff {tree : FileTree} {workingDirectory : Location} {path : Path}
    {content : ByteArray} :
    tree.lookup workingDirectory path = .ok (.file content) ↔
      ∃ location, tree.resolve workingDirectory path = .ok location ∧
        tree.entryAt location = some (.file content) := by
  rw [lookup]
  cases tree.resolve workingDirectory path with
  | error cause => simp [bind, Except.bind]
  | ok location =>
      cases found : tree.entryAt location with
      | none => simp [bind, Except.bind, found]
      | some entry => simp [bind, Except.bind, found, pure, Except.pure]

theorem isFile_iff {tree : FileTree} {workingDirectory : Location} {path : Path} :
    tree.isFile workingDirectory path = true ↔
      ∃ location, tree.LeadsToFile workingDirectory path location := by
  have asked : tree.isFile workingDirectory path = true ↔
      ∃ content, tree.lookup workingDirectory path = .ok (.file content) := by
    rw [isFile]
    cases tree.lookup workingDirectory path with
    | error cause => simp
    | ok entry => cases entry <;> simp
  rw [asked]
  constructor
  · rintro ⟨content, found⟩
    rcases lookup_eq_file_iff.mp found with ⟨location, resolved, isFile⟩
    exact ⟨location, resolved, content, isFile⟩
  · rintro ⟨location, resolved, content, isFile⟩
    exact ⟨content, lookup_eq_file_iff.mpr ⟨location, resolved, isFile⟩⟩

theorem leadsToFile_of_readText {tree : FileTree} {workingDirectory : Location} {path : Path}
    {text : String} (read : tree.readText workingDirectory path = .ok text) :
    ∃ location, tree.LeadsToFile workingDirectory path location := by
  rw [readText] at read
  cases found : tree.lookup workingDirectory path with
  | error cause => simp [found, bind, Except.bind] at read
  | ok entry =>
      cases entry with
      | directory => simp [found, bind, Except.bind] at read
      | file content =>
          rcases lookup_eq_file_iff.mp found with ⟨location, resolved, isFile⟩
          exact ⟨location, resolved, content, isFile⟩

end ScriptBundle.FileTree
