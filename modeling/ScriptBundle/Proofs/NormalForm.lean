import ScriptBundle.Proofs.Segment

/-!
# Normal forms of paths

A path leads somewhere by steps: up, or to a child by its name.  Its
components are read back from the text that spells them, as long as they are
steps behind an optional leading slash.

Lexical normalization gives components of one of two forms: the root and names
behind it, or some steps up and names behind them.  Components of these forms
are left alone, so normalizing twice is normalizing once.
-/

namespace ScriptBundle.Path

/-- A segment that can name a child. -/
structure IsName (segment : List Char) : Prop where
  nonempty : segment ≠ []
  notHere : segment ≠ ['.']
  notUp : segment ≠ ['.', '.']
  plain : '/' ∉ segment

/-- A component that leads up or to a child. -/
inductive IsStep : Component → Prop where
  | up : IsStep .up
  | name {text : List Char} (isName : IsName text) : IsStep (.name text)

namespace IsStep

/-- No slash is in the text of a step. -/
theorem plain {component : Component} (step : IsStep component) :
    '/' ∉ component.segment := by
  cases step with
  | up => decide
  | name isName => exact isName.plain

theorem isBlank_segment {component : Component} (step : IsStep component) :
    isBlank component.segment = false := by
  cases step with
  | up => rfl
  | name isName =>
      simp [isBlank, Component.segment, isName.nonempty, isName.notHere]

/-- A step is what its text spells. -/
theorem ofSegment_segment {component : Component} (step : IsStep component) :
    Component.ofSegment component.segment = component := by
  cases step with
  | up => rfl
  | name isName => exact if_neg isName.notUp

end IsStep

/-- The steps of a path, without what tells where they start. -/
def steps (path : Path) : List Component :=
  ((segmentsOf path.characters).filter (!isBlank ·)).map Component.ofSegment

theorem isStep_ofSegment {segment : List Char} (notBlank : isBlank segment = false)
    (plain : '/' ∉ segment) : IsStep (.ofSegment segment) := by
  rw [Component.ofSegment]
  split
  · exact .up
  · next notUp =>
    simp only [isBlank, Bool.or_eq_false_iff, decide_eq_false_iff_not] at notBlank
    exact .name ⟨notBlank.1, notBlank.2, notUp, plain⟩

/-- A component is written like the segment it was read from. -/
@[simp]
theorem segment_ofSegment (segment : List Char) :
    (Component.ofSegment segment).segment = segment := by
  rw [Component.ofSegment]
  split
  · next up => exact up.symm
  · rfl

/-- The components of a path behind its start are steps. -/
theorem isStep_of_mem_steps {path : Path} {component : Component}
    (member : component ∈ path.steps) : IsStep component := by
  rcases List.mem_map.mp member with ⟨segment, kept, rfl⟩
  rcases List.mem_filter.mp kept with ⟨inside, notBlank⟩
  exact isStep_ofSegment (by simpa using notBlank) (slash_not_mem_segment inside)

/-- A path is absolute if its text starts with a slash. -/
theorem isAbsolute_iff {path : Path} :
    path.isAbsolute = true ↔ ∃ rest, path.characters = '/' :: rest := by
  rw [isAbsolute, decide_eq_true_eq]
  exact List.head?_eq_some_iff

/-- An absolute path leads from the root. -/
theorem components_of_isAbsolute {path : Path} (absolute : path.isAbsolute = true) :
    path.components = .root :: path.steps := by
  simp [components, steps, absolute]

theorem components_of_not_isAbsolute {path : Path} (relative : path.isAbsolute = false) :
    path.components = path.steps ∨ path.components = .here :: path.steps := by
  cases here : path.startsHere with
  | false => exact .inl (by simp [components, steps, relative, here])
  | true => exact .inr (by simp [components, steps, relative, here])

/-- The directory above an absolute path has an absolute path. -/
theorem isAbsolute_of_parent {path above : Path} (absolute : path.isAbsolute = true)
    (found : path.parent = some above) : above.isAbsolute = true := by
  rcases isAbsolute_iff.mp absolute with ⟨body, spelled⟩
  have notHere : path.startsHere = false := by
    rw [startsHere, spelled, segmentsOf_slash_cons]
    rfl
  rw [parent] at found
  simp only [absolute, notHere, if_true, Bool.false_eq_true, if_false] at found
  split at found
  · cases found
  · cases found
    simp [isAbsolute, characters]

/-- The components of a path are among its segments. -/
theorem map_segment_components_sublist (path : Path) :
    (path.components.map Component.segment).Sublist (segmentsOf path.characters) := by
  have kept : path.steps.map Component.segment =
      (segmentsOf path.characters).filter (!isBlank ·) := by
    simp [steps, Function.comp_def]
  cases absolute : path.isAbsolute with
  | true =>
      rcases isAbsolute_iff.mp absolute with ⟨rest, spelled⟩
      rw [components_of_isAbsolute absolute, List.map_cons, kept,
        spelled, segmentsOf_slash_cons, List.filter_cons_of_neg (by decide)]
      exact List.filter_sublist.cons_cons []
  | false =>
      cases here : path.startsHere with
      | false =>
          have shape : path.components = path.steps := by
            simp [components, steps, absolute, here]
          rw [shape, kept]
          exact List.filter_sublist
      | true =>
          have shape : path.components = .here :: path.steps := by
            simp [components, steps, absolute, here]
          simp only [startsHere, decide_eq_true_eq] at here
          rcases List.head?_eq_some_iff.mp here with ⟨rest, cut⟩
          rw [shape, List.map_cons, kept, cut, List.filter_cons_of_neg (by decide)]
          exact List.filter_sublist.cons_cons ['.']

/-- Steps are read back from their texts. -/
theorem steps_of_segments {parts : List Component} (areSteps : ∀ part ∈ parts, IsStep part) :
    ((parts.map Component.segment).filter (!isBlank ·)).map Component.ofSegment = parts := by
  induction parts with
  | nil => rfl
  | cons part rest induction =>
      have first : IsStep part := areSteps part List.mem_cons_self
      have others : ∀ other ∈ rest, IsStep other :=
        fun other member => areSteps other (List.mem_cons_of_mem _ member)
      simp only [List.map_cons, List.filter_cons, first.isBlank_segment, Bool.not_false, if_true,
        first.ofSegment_segment, induction others]

/-- Texts of steps that are joined by slashes are told apart again. -/
theorem segmentsOf_steps {parts : List Component} (areSteps : ∀ part ∈ parts, IsStep part)
    (nonempty : parts ≠ []) :
    segmentsOf (joinSegments (parts.map Component.segment)) = parts.map Component.segment := by
  apply segmentsOf_joinSegments
  · simpa using nonempty
  · intro segment member
    rcases List.mem_map.mp member with ⟨part, inside, rfl⟩
    exact (areSteps part inside).plain

@[simp]
theorem characters_ofComponents_root (parts : List Component) :
    (ofComponents (.root :: parts)).characters =
      '/' :: joinSegments (parts.map Component.segment) := by
  rw [characters, ofComponents, String.toList_ofList]

theorem ofComponents_of_head?_ne_root {parts : List Component}
    (noRoot : parts.head? ≠ some .root) :
    ofComponents parts = ⟨String.ofList (joinSegments (parts.map Component.segment))⟩ := by
  cases parts with
  | nil => rfl
  | cons part rest =>
      cases part with
      | root => exact absurd rfl noRoot
      | here => rfl
      | up => rfl
      | name text => rfl

theorem head?_ne_root {parts : List Component} (areSteps : ∀ part ∈ parts, IsStep part) :
    parts.head? ≠ some .root := by
  intro starts
  have step : IsStep .root := areSteps _ (List.mem_of_mem_head? starts)
  cases step

theorem characters_ofComponents_steps {parts : List Component}
    (areSteps : ∀ part ∈ parts, IsStep part) :
    (ofComponents parts).characters = joinSegments (parts.map Component.segment) := by
  rw [ofComponents_of_head?_ne_root (head?_ne_root areSteps), characters, String.toList_ofList]

theorem isAbsolute_ofComponents_root (parts : List Component) :
    (ofComponents (.root :: parts)).isAbsolute = true := by
  simp [isAbsolute]

/-- A path that is made of the root and steps has these as its components. -/
theorem components_ofComponents_root {parts : List Component}
    (areSteps : ∀ part ∈ parts, IsStep part) :
    (ofComponents (.root :: parts)).components = .root :: parts := by
  rw [components_of_isAbsolute (isAbsolute_ofComponents_root parts), steps,
    characters_ofComponents_root, segmentsOf_slash_cons]
  by_cases empty : parts = []
  · subst empty
    rfl
  · rw [segmentsOf_steps areSteps empty, List.filter_cons_of_neg (by decide),
      steps_of_segments areSteps]

theorem isAbsolute_ofComponents_steps {parts : List Component}
    (areSteps : ∀ part ∈ parts, IsStep part) :
    (ofComponents parts).isAbsolute = false := by
  cases parts with
  | nil => decide
  | cons part rest =>
      have cut := segmentsOf_steps areSteps (List.cons_ne_nil part rest)
      have first : IsStep part := areSteps part List.mem_cons_self
      have notBlank := first.isBlank_segment
      rw [← characters_ofComponents_steps areSteps] at cut
      refine Bool.eq_false_iff.mpr fun starts => ?_
      rcases isAbsolute_iff.mp starts with ⟨others, text⟩
      rw [text, segmentsOf_slash_cons, List.map_cons] at cut
      simp [← (List.cons.inj cut).1, isBlank] at notBlank

/-- A path that is made of steps alone has no others. -/
theorem components_ofComponents_steps {parts : List Component}
    (areSteps : ∀ part ∈ parts, IsStep part) :
    (ofComponents parts).components = parts := by
  cases parts with
  | nil => decide
  | cons part rest =>
      have cut := segmentsOf_steps areSteps (List.cons_ne_nil part rest)
      have first : IsStep part := areSteps part List.mem_cons_self
      have notBlank := first.isBlank_segment
      rw [← characters_ofComponents_steps areSteps] at cut
      have notHere : (ofComponents (part :: rest)).startsHere = false := by
        rw [startsHere, cut]
        simp only [isBlank, Bool.or_eq_false_iff, decide_eq_false_iff_not] at notBlank
        simpa using notBlank.2
      simp only [components, isAbsolute_ofComponents_steps areSteps, notHere, cut,
        Bool.false_eq_true, if_false, List.nil_append, steps_of_segments areSteps]

/-! ## Normal forms -/

/-- Where the names of a normal form start, in an absolute path and in a
relative one. -/
inductive IsBase : Bool → List Component → Prop where
  | root : IsBase true [.root]
  | ups (count : Nat) : IsBase false (List.replicate count .up)

/-- Components that are left alone by normalization: names behind the root, or
behind some steps up. -/
def IsNormal (absolute : Bool) (parts : List Component) : Prop :=
  ∃ (base : List Component) (names : List (List Char)),
    IsBase absolute base ∧ (∀ name ∈ names, IsName name) ∧ parts = base ++ names.map .name

/-- One more component on a stack whose reverse is a normal form. -/
theorem isNormal_normalizeStep {absolute : Bool} {kept : List Component} {component : Component}
    (normal : IsNormal absolute kept.reverse) (step : IsStep component) :
    IsNormal absolute (normalizeStep kept component).reverse := by
  rcases normal with ⟨base, names, isBase, areNames, shape⟩
  have unreversed : kept = (base ++ names.map Component.name).reverse := by
    rw [← shape, List.reverse_reverse]
  cases step with
  | @name text isName =>
      refine ⟨base, names ++ [text], isBase, ?_, ?_⟩
      · intro name member
        rcases List.mem_append.mp member with earlier | last
        · exact areNames name earlier
        · exact List.mem_singleton.mp last ▸ isName
      · simp [normalizeStep, shape]
  | up =>
      rcases List.eq_nil_or_concat names with rfl | ⟨before, last, rfl⟩
      · cases isBase with
        | root =>
            have keptRoot : kept = [.root] := unreversed
            exact ⟨[.root], [], .root, by simp, by simp [normalizeStep, keptRoot]⟩
        | ups count =>
            have keptUps : kept = List.replicate count .up := by simpa using unreversed
            refine ⟨_, [], .ups (count + 1), by simp, ?_⟩
            cases count <;>
              simp [normalizeStep, keptUps, List.replicate_succ, ← List.replicate_succ']
      · rw [List.concat_eq_append] at areNames unreversed
        refine ⟨base, before, isBase, ?_, ?_⟩
        · exact fun name member => areNames name (List.mem_append_left _ member)
        · simp [normalizeStep, unreversed]

/-- One step after another keeps the form of what was kept before. -/
theorem isNormal_foldl {absolute : Bool} {parts kept : List Component}
    (normal : IsNormal absolute kept.reverse) (areSteps : ∀ part ∈ parts, IsStep part) :
    IsNormal absolute (parts.foldl normalizeStep kept).reverse := by
  induction parts generalizing kept with
  | nil => exact normal
  | cons part rest induction =>
      rw [List.foldl_cons]
      exact induction
        (isNormal_normalizeStep normal (areSteps part List.mem_cons_self))
        fun other member => areSteps other (List.mem_cons_of_mem _ member)

theorem isNormal_nil : IsNormal false [] :=
  ⟨[], [], .ups 0, by simp, rfl⟩

theorem isNormal_root : IsNormal true [.root] :=
  ⟨[.root], [], .root, by simp, rfl⟩

/-- Whatever a path is, its normalized components are of one of the two forms. -/
theorem isNormal_normalizeComponents (path : Path) :
    IsNormal path.isAbsolute (normalizeComponents path.components) := by
  have areSteps : ∀ part ∈ path.steps, IsStep part := fun _ member =>
    isStep_of_mem_steps member
  cases absolute : path.isAbsolute with
  | true =>
      rw [components_of_isAbsolute absolute, normalizeComponents, List.foldl_cons]
      exact isNormal_foldl isNormal_root areSteps
  | false =>
      rcases components_of_not_isAbsolute absolute with shape | shape
      · rw [shape, normalizeComponents]
        exact isNormal_foldl isNormal_nil areSteps
      · rw [shape, normalizeComponents, List.foldl_cons]
        exact isNormal_foldl isNormal_nil areSteps

/-- Names are kept one after the other. -/
theorem foldl_names (kept : List Component) (names : List (List Char)) :
    (names.map Component.name).foldl normalizeStep kept =
      (names.map Component.name).reverse ++ kept := by
  induction names generalizing kept with
  | nil => rfl
  | cons name rest induction =>
      rw [List.map_cons, List.foldl_cons, induction]
      simp [normalizeStep]

/-- Steps up are kept where nothing else was kept before. -/
theorem foldl_ups (before count : Nat) :
    (List.replicate count Component.up).foldl normalizeStep (List.replicate before .up) =
      List.replicate (before + count) .up := by
  induction count generalizing before with
  | zero => rfl
  | succ count induction =>
      have push : normalizeStep (List.replicate before .up) .up =
          List.replicate (before + 1) .up := by
        cases before <;> rfl
      rw [List.replicate_succ, List.foldl_cons, push, induction]
      congr 1
      omega

/-- Components of these forms are left alone. -/
theorem IsNormal.normalizeComponents_eq {absolute : Bool} {parts : List Component}
    (normal : IsNormal absolute parts) :
    normalizeComponents parts = parts := by
  rcases normal with ⟨base, names, isBase, -, rfl⟩
  have baseKept : base.foldl normalizeStep [] = base.reverse := by
    cases isBase with
    | root => rfl
    | ups count => simpa using foldl_ups 0 count
  rw [normalizeComponents, List.foldl_append, baseKept, foldl_names]
  simp

/-- Normalization keeps some of the components, in their order. -/
theorem normalizeComponents_sublist (parts : List Component) :
    (normalizeComponents parts).Sublist parts := by
  -- the induction is on the components that were read, latest last
  have kept_sublist : ∀ kept processed : List Component, kept.reverse.Sublist processed →
      (parts.foldl normalizeStep kept).reverse.Sublist (processed ++ parts) := by
    induction parts with
    | nil => simp
    | cons part rest induction =>
        intro kept processed sublist
        have dropped : kept.reverse.Sublist (processed ++ [part]) :=
          sublist.trans (List.sublist_append_left _ _)
        have pushed : (part :: kept).reverse.Sublist (processed ++ [part]) := by
          rw [List.reverse_cons]
          exact sublist.append (List.Sublist.refl _)
        have stepped : (normalizeStep kept part).reverse.Sublist (processed ++ [part]) := by
          cases part with
          | root => exact pushed
          | name text => exact pushed
          | here => exact dropped
          | up =>
              rcases kept with _ | ⟨last, before⟩
              · exact pushed
              · cases last with
                | root => exact dropped
                | here => exact pushed
                | up => exact pushed
                | name text =>
                    rw [List.reverse_cons] at dropped
                    exact (List.sublist_append_left _ _).trans dropped
        simpa using induction _ _ stepped
  simpa [normalizeComponents] using kept_sublist [] [] (List.Sublist.refl _)

theorem isStep_names {names : List (List Char)} (areNames : ∀ name ∈ names, IsName name) :
    ∀ part ∈ names.map Component.name, IsStep part := by
  intro part member
  rcases List.mem_map.mp member with ⟨name, inside, rfl⟩
  exact .name (areNames name inside)

theorem isStep_ups_names {names : List (List Char)} (areNames : ∀ name ∈ names, IsName name)
    (count : Nat) :
    ∀ part ∈ List.replicate count .up ++ names.map Component.name, IsStep part := by
  intro part member
  rcases List.mem_append.mp member with up | name
  · exact (List.eq_of_mem_replicate up) ▸ .up
  · exact isStep_names areNames part name

/-- A normal form is read back from the text that spells it. -/
theorem IsNormal.components_ofComponents {absolute : Bool} {parts : List Component}
    (normal : IsNormal absolute parts) :
    (ofComponents parts).components = parts := by
  rcases normal with ⟨base, names, isBase, areNames, rfl⟩
  cases isBase with
  | root => exact components_ofComponents_root (isStep_names areNames)
  | ups count => exact components_ofComponents_steps (isStep_ups_names areNames count)

theorem IsNormal.isAbsolute_ofComponents {absolute : Bool} {parts : List Component}
    (normal : IsNormal absolute parts) :
    (ofComponents parts).isAbsolute = absolute := by
  rcases normal with ⟨base, names, isBase, areNames, rfl⟩
  cases isBase with
  | root => exact isAbsolute_ofComponents_root _
  | ups count => exact isAbsolute_ofComponents_steps (isStep_ups_names areNames count)

theorem IsNormal.plain {absolute : Bool} {parts : List Component}
    (normal : IsNormal absolute parts) {part : Component} (member : part ∈ parts) :
    '/' ∉ part.segment := by
  rcases normal with ⟨base, names, isBase, areNames, rfl⟩
  cases isBase with
  | root =>
      rcases List.mem_cons.mp member with rfl | name
      · simp [Component.segment]
      · exact (isStep_names areNames part name).plain
  | ups count => exact (isStep_ups_names areNames count part member).plain

theorem IsNormal.characters_ofComponents {absolute : Bool} {parts : List Component}
    (normal : IsNormal absolute parts) (notRoot : parts ≠ [.root]) :
    (ofComponents parts).characters = joinSegments (parts.map Component.segment) := by
  rcases normal with ⟨base, names, isBase, areNames, rfl⟩
  cases isBase with
  | root =>
      have named : (names.map Component.name).map Component.segment ≠ [] := by
        intro empty
        simp only [List.map_eq_nil_iff] at empty
        exact notRoot (by simp [empty])
      rw [List.singleton_append, characters_ofComponents_root, List.map_cons,
        joinSegments_cons named]
      rfl
  | ups count => exact characters_ofComponents_steps (isStep_ups_names areNames count)

/-- The text that spells a normal form is cut into its segments. -/
theorem IsNormal.segmentsOf_ofComponents {absolute : Bool} {parts : List Component}
    (normal : IsNormal absolute parts) (nonempty : parts ≠ [])
    (filled : parts.map Component.segment ≠ [[]]) :
    segmentsOf (ofComponents parts).characters = parts.map Component.segment := by
  rw [normal.characters_ofComponents]
  · refine segmentsOf_joinSegments (by simpa using nonempty) fun segment member => ?_
    rcases List.mem_map.mp member with ⟨part, inside, rfl⟩
    exact normal.plain inside
  · rintro rfl
    exact filled rfl

/-- The components of a normalized path are the normalized components of the path. -/
theorem components_normalize (path : Path) :
    path.normalize.components = normalizeComponents path.components :=
  (isNormal_normalizeComponents path).components_ofComponents

theorem isAbsolute_normalize (path : Path) : path.normalize.isAbsolute = path.isAbsolute :=
  (isNormal_normalizeComponents path).isAbsolute_ofComponents

/-- Normalizing twice is normalizing once. -/
theorem normalize_normalize (path : Path) : path.normalize.normalize = path.normalize := by
  rw [normalize, components_normalize,
    (isNormal_normalizeComponents path).normalizeComponents_eq, normalize]

end ScriptBundle.Path
