import ScriptBundle.Proofs.Identity
import ScriptBundle.Proofs.Part

/-!
# Normalized paths of modules

A specifier is normalized before an extension is written after it.  If no
extension has a slash, then whatever file is found this way has its normalized
path, and so a file has one path, however it was found.

Identifiers tell normalized paths apart if no name in the paths has a backslash.
-/

namespace ScriptBundle

namespace Path

variable {path other root file : Path} {segments front : List (List Char)} {last : List Char}

theorem joinSegments_concat_append (front : List (List Char)) (last more : List Char) :
    joinSegments (front ++ [last]) ++ more = joinSegments (front ++ [last ++ more]) := by
  by_cases empty : front = []
  · subst empty
    rfl
  · rw [joinSegments_append empty (List.cons_ne_nil _ _),
      joinSegments_append empty (List.cons_ne_nil _ _), List.append_assoc]
    rfl

/-- A text without a slash that is written after an absolute path prolongs its
last segment. -/
theorem tail_append {extension : String} (absolute : path.isAbsolute = true)
    (plain : '/' ∉ extension.toList) (cut : path.tail = front ++ [last]) :
    (path.append extension).tail = front ++ [last ++ extension.toList] := by
  have spelled : (path.append extension).characters =
      '/' :: joinSegments (front ++ [last ++ extension.toList]) := by
    rw [characters, append, String.toList_append, ← characters,
      characters_eq_of_isAbsolute absolute, cut, List.cons_append, joinSegments_concat_append]
  apply tail_of_characters (by simp) _ spelled
  intro segment listed
  have plainTail : ∀ segment ∈ front ++ [last], '/' ∉ segment := by
    rw [← cut]
    exact fun segment listed => path.plain_of_mem_tail listed
  rcases List.forall_mem_append.mp plainTail with ⟨plainFront, plainLast⟩
  rcases List.mem_append.mp listed with before | final
  · exact plainFront segment before
  · rw [List.mem_singleton.mp final, List.mem_append, not_or]
    exact ⟨plainLast last List.mem_cons_self, plain⟩

/-- A normalized absolute path makes no step, or has names for segments. -/
theorem tail_of_normal (absolute : path.isAbsolute = true) (normal : path.normalize = path) :
    path.tail = [[]] ∨ ∀ segment ∈ path.tail, IsName segment := by
  have shape := isNormal_normalizeComponents path
  rw [absolute] at shape
  have whole := shape
  rcases shape with ⟨base, names, isBase, areNames, shape⟩
  cases isBase
  by_cases none : names = []
  · left
    have spelled : path.characters = '/' :: [] := by
      rw [← normal, normalize, shape, none]
      rfl
    rw [tail_eq spelled]
    rfl
  · right
    have filled : (normalizeComponents path.components).map Component.segment ≠ [[]] := by
      intro blank
      rw [shape] at blank
      simp at blank
      exact none blank.2
    have cut := whole.segmentsOf_ofComponents (by simp [shape]) filled
    rw [← normalize, normal, segmentsOf_of_isAbsolute absolute, shape] at cut
    intro segment listed
    rw [(List.cons.inj cut).2] at listed
    rcases List.mem_map.mp listed with ⟨part, isPart, rfl⟩
    rcases List.mem_map.mp isPart with ⟨name, isName, rfl⟩
    exact areNames name isName

/-- A path whose segments are names has these as steps. -/
theorem components_of_names (absolute : path.isAbsolute = true)
    (areNames : ∀ segment ∈ path.tail, IsName segment) :
    path.components = .root :: path.tail.map Component.name := by
  have kept : path.tail.filter (!isBlank ·) = path.tail := by
    rw [List.filter_eq_self]
    intro segment listed
    have step := IsStep.isBlank_segment (.name (areNames segment listed))
    rw [Component.segment] at step
    rw [step]
    rfl
  have named : path.tail.map Component.ofSegment = path.tail.map Component.name := by
    apply List.map_congr_left
    intro segment listed
    exact if_neg (areNames segment listed).notUp
  rw [components_of_isAbsolute absolute, steps, segmentsOf_of_isAbsolute absolute,
    List.filter_cons_of_neg (by decide), kept, named]

theorem normalize_of_names (absolute : path.isAbsolute = true)
    (areNames : ∀ segment ∈ path.tail, IsName segment) : path.normalize = path := by
  have shape := components_of_names absolute areNames
  have normal : IsNormal true path.components := ⟨[.root], path.tail, .root, areNames, shape⟩
  have spelled : path.normalize.characters = path.characters := by
    rw [normalize, normal.normalizeComponents_eq, shape, characters_ofComponents_root,
      characters_eq_of_isAbsolute absolute, List.map_map]
    simp [Function.comp_def, Component.segment]
  exact congrArg Path.mk (String.toList_inj.mp spelled)

/-- A file that is found by writing an extension after a normalized path has
its normalized path. -/
theorem normalize_append {extension : String} {tree : FileTree}
    {workingDirectory location : Location} (absolute : path.isAbsolute = true)
    (normal : path.normalize = path) (plain : '/' ∉ extension.toList)
    (leads : tree.LeadsToFile workingDirectory (path.append extension) location) :
    (path.append extension).normalize = path.append extension := by
  have prolonged : (path.append extension).isAbsolute = true :=
    isAbsolute_prolonged absolute extension
  rcases List.eq_nil_or_concat path.tail with empty | ⟨front, last, cut⟩
  · rcases isAbsolute_iff.mp absolute with ⟨rest, spelled⟩
    rw [tail_eq spelled] at empty
    exact absurd empty (segmentsOf_ne_nil rest)
  rw [List.concat_eq_append] at cut
  have longer := tail_append absolute plain cut
  apply normalize_of_names prolonged
  rw [longer]
  refine List.forall_mem_append.mpr ⟨?_, ?_⟩
  · rcases tail_of_normal absolute normal with none | areNames
    · have short := congrArg List.length (cut.symm.trans none)
      have empty : front = [] := by
        rw [← List.length_eq_zero_iff]
        simpa using short
      rw [empty]
      intro segment listed
      cases listed
    · intro segment listed
      apply areNames
      rw [cut]
      exact List.mem_append_left _ listed
  · rcases leads.ends prolonged with ⟨before, final, cutAgain, filled, notUp⟩
    rw [longer] at cutAgain
    have same := List.singleton_inj.mp (List.append_inj' cutAgain rfl).2
    have isPlain : '/' ∉ last ++ extension.toList := by
      apply plain_of_mem_tail (path.append extension)
      rw [longer]
      simp
    simp only [← same, isBlank, Bool.or_eq_false_iff, decide_eq_false_iff_not] at filled
    rw [← same] at notUp
    exact List.forall_mem_singleton.mpr ⟨filled.1, filled.2, notUp, isPlain⟩

/-- No name in a path has a backslash. -/
def HasNoBackslash (path : Path) : Prop :=
  ∀ part ∈ path.components, '\\' ∉ part.segment

theorem hasNoBackslash_of_not_mem (absent : '\\' ∉ path.characters) : path.HasNoBackslash := by
  intro part listed inside
  have member := (map_segment_components_sublist path).subset (List.mem_map_of_mem listed)
  exact absent (mem_text_of_mem_segment member inside)

theorem mem_characters_ofComponents {parts : List Component} {character : Char}
    (member : character ∈ (ofComponents parts).characters) :
    character = '/' ∨ ∃ part ∈ parts, character ∈ part.segment := by
  have joined {others : List Component}
      (inside : character ∈ joinSegments (others.map Component.segment)) :
      character = '/' ∨ ∃ part ∈ others, character ∈ part.segment := by
    rcases mem_joinSegments inside with slash | ⟨segment, listed, inside⟩
    · exact .inl slash
    · rcases List.mem_map.mp listed with ⟨part, isPart, rfl⟩
      exact .inr ⟨part, isPart, inside⟩
  by_cases rooted : ∃ others, parts = .root :: others
  · rcases rooted with ⟨others, rfl⟩
    rw [characters_ofComponents_root] at member
    rcases List.mem_cons.mp member with slash | inside
    · exact .inl slash
    · rcases joined inside with slash | ⟨part, listed, inside⟩
      · exact .inl slash
      · exact .inr ⟨part, List.mem_cons_of_mem _ listed, inside⟩
  · have noRoot : parts.head? ≠ some .root := by
      intro starts
      cases parts with
      | nil => cases starts
      | cons part others =>
          cases starts
          exact rooted ⟨others, rfl⟩
    rw [ofComponents_of_head?_ne_root noRoot, characters, String.toList_ofList] at member
    exact joined member

/-- A route is made of steps up and of steps of its target. -/
theorem mem_routeSteps {started : Bool} {target base parts : List Component} {part : Component}
    (routed : routeSteps started target base = some parts) (listed : part ∈ parts) :
    part = .up ∨ part ∈ target := by
  fun_induction routeSteps started target base generalizing parts with
  | case1 started target =>
      cases routed
      exact .inr listed
  | case2 started baseStep base induction =>
      rcases Option.map_eq_some_iff.mp routed with ⟨rest, further, rfl⟩
      rcases List.mem_cons.mp listed with isUp | later
      · exact .inl isUp
      · exact induction further later
  | case3 started step target baseStep base shared induction =>
      exact (induction routed listed).imp_right (List.mem_cons_of_mem _)
  | case4 started step target base differs induction =>
      rcases Option.map_eq_some_iff.mp routed with ⟨rest, further, rfl⟩
      rcases List.mem_cons.mp listed with rfl | later
      · exact .inr List.mem_cons_self
      · exact (induction further later).imp_right (List.mem_cons_of_mem _)
  | case5 => cases routed
  | case6 started step target baseStep base =>
      cases routed
      rcases List.mem_append.mp listed with isUp | isTarget
      · rcases List.mem_cons.mp isUp with rfl | later
        · exact .inl rfl
        · rcases List.mem_map.mp later with ⟨_, -, rfl⟩
          exact .inl rfl
      · exact .inr isTarget

/-- The identifier of a path without backslashes spells the route to it. -/
theorem slashed_route (plain : path.HasNoBackslash) (root : Path) :
    slashed (route root path).text = (route root path).text := by
  have plainNormal {part : Component} (listed : part ∈ path.normalize.components) :
      '\\' ∉ part.segment := by
    rw [components_normalize] at listed
    exact plain part ((normalizeComponents_sublist _).subset listed)
  have spelled : ∃ parts, route root path = ofComponents parts ∧
      ∀ part ∈ parts, '\\' ∉ part.segment := by
    have whole : ∃ parts, path.normalize = ofComponents parts ∧
        ∀ part ∈ parts, '\\' ∉ part.segment :=
      ⟨_, rfl, fun part listed => plain part ((normalizeComponents_sublist _).subset listed)⟩
    rw [route, relativeTo]
    split
    · cases routed : routeSteps false path.normalize.components root.components with
      | none => exact whole
      | some parts =>
          refine ⟨parts, rfl, ?_⟩
          intro part listed
          rcases mem_routeSteps routed listed with rfl | isTarget
          · decide
          · exact plainNormal isTarget
    · split <;> exact whole
  rcases spelled with ⟨parts, shape, plainParts⟩
  apply slashed_of_not_mem
  intro inside
  rw [shape] at inside
  rcases mem_characters_ofComponents inside with slash | ⟨part, listed, member⟩
  · exact absurd slash (by decide)
  · exact plainParts part listed member

/-- Normalized absolute paths without backslashes are told by their
identifiers. -/
theorem eq_of_identifier_eq (rootAbsolute : root.isAbsolute = true)
    (rootNormal : root.normalize = root) (absolute : path.isAbsolute = true)
    (normal : path.normalize = path) (plain : path.HasNoBackslash)
    (otherAbsolute : other.isAbsolute = true) (otherNormal : other.normalize = other)
    (otherPlain : other.HasNoBackslash) (same : identifier root path = identifier root other) :
    path = other := by
  rw [identifier_eq_iff, slashed_route plain, slashed_route otherPlain] at same
  rw [← normal, ← otherNormal]
  exact normalize_eq_of_route_eq rootAbsolute rootNormal absolute otherAbsolute
    (congrArg Path.mk same)

end Path

/-- A normalized absolute path leads to a file. -/
structure World.Locates (world : World) (path : Path) : Prop where
  absolute : path.isAbsolute = true
  normal : path.normalize = path
  leads : ∃ location, world.tree.LeadsToFile world.workingDirectory path location

namespace ModuleBuilder

variable {builder : ModuleBuilder} {world : World} {path other file start : Path}

/-- A builder with a normalized absolute root and without slashes in its
extensions, for files without backslashes in their names. -/
structure Plain (builder : ModuleBuilder) (world : World) : Prop where
  rootAbsolute : builder.linker.root.isAbsolute = true
  rootNormal : builder.linker.root.normalize = builder.linker.root
  extensions : ∀ extension ∈ builder.linker.extensions, '/' ∉ extension.toList
  names : ∀ location ∈ world.tree.files, ∀ name ∈ location, '\\' ∉ name.toList

/-- Whatever a module requires has a normalized absolute path, if the path of
the module is absolute. -/
theorem RequiresFile.locates (required : builder.RequiresFile world path file)
    (plain : builder.Plain world) (absolute : path.isAbsolute = true)
    (leads : ∃ location, world.tree.LeadsToFile world.workingDirectory path location) :
    world.Locates file := by
  rcases leads with ⟨location, leads⟩
  have fileAbsolute := required.isAbsolute leads absolute
  refine ⟨fileAbsolute, ?_, required.leadsToFile⟩
  rcases required.leadsToFile with ⟨place, found⟩
  rcases required.fileFor with ⟨specifier, chosen⟩
  rcases List.mem_map.mp (List.mem_of_find?_eq_some chosen) with ⟨extension, listed, rfl⟩
  have noSlash : '/' ∉ extension.toList := by
    rcases List.mem_cons.mp listed with rfl | isExtension
    · exact List.not_mem_nil
    · exact plain.extensions extension isExtension
  refine Path.normalize_append ?_ (Path.normalize_normalize _) noSlash found
  rw [Path.isAbsolute_normalize]
  exact Path.isAbsolute_join
    (Path.isAbsolute_directory absolute (leads.steps_ne_nil absolute)) _

theorem locates_of_reached (plain : builder.Plain world) (located : world.Locates start)
    (reached : Relation.ReflTransGen (builder.RequiresFile world) start path) :
    world.Locates path := by
  induction reached with
  | refl => exact located
  | tail _ required induction => exact required.locates plain induction.absolute induction.leads

/-- A path to a file has no backslash if the names of files have none. -/
theorem Plain.hasNoBackslash (plain : builder.Plain world) (located : world.Locates path) :
    path.HasNoBackslash := by
  rcases located.leads with ⟨location, leads⟩
  have place := leads.eq_place located.absolute
  intro part listed
  rw [Path.components_eq_place located.absolute located.normal] at listed
  rcases List.mem_cons.mp listed with rfl | isName
  · decide
  · rcases List.mem_map.mp isName with ⟨name, inPlace, rfl⟩
    exact plain.names location leads.mem_files name (place ▸ inPlace)

/-- Files are told by the identifiers of their modules. -/
theorem Plain.eq_of_idOf_eq (plain : builder.Plain world) (located : world.Locates path)
    (otherAbsolute : other.isAbsolute = true) (otherNormal : other.normalize = other)
    (otherPlain : other.HasNoBackslash) (same : builder.idOf path = builder.idOf other) :
    path = other :=
  Path.eq_of_identifier_eq plain.rootAbsolute plain.rootNormal located.absolute located.normal
    (plain.hasNoBackslash located) otherAbsolute otherNormal otherPlain same

end ModuleBuilder

end ScriptBundle
