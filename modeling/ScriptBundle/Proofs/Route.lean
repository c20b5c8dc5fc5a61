import ScriptBundle.Proofs.Walk

/-!
# Routes to files

The normalized path to a file is told by little: an absolute one by the file
alone, a relative one by the file and the number of steps it goes up.  A path
has only so many bytes, and so there are only so many normalized paths to the
files of a tree.  These are its routes.

The identifier of a file spells the route to it from the root of the
identifiers.  Where both are absolute and the root is normalized, the route
leads from the root to where the file is.  So different places have different
routes, and what an identifier can confuse is only the spelling: a name with a
backslash is written like two names.
-/

namespace ScriptBundle

/-- The place that an absolute path leads to, if it leads anywhere. -/
def Path.place (path : Path) : Location :=
  FileTree.descend [] path.components

namespace FileTree

open ScriptBundle.Path (Component)

theorem descend_names (start : Location) (names : List (List Char)) :
    descend start (names.map Component.name) = start ++ names.map String.ofList := by
  induction names generalizing start with
  | nil => simp [descend]
  | cons name rest induction =>
      have next := induction (move start (.name name))
      simp only [descend, List.map_cons, List.foldl_cons] at next ⊢
      rw [next, move, List.append_assoc, List.singleton_append]

theorem descend_ups (start : Location) (count : Nat) :
    descend start (List.replicate count Component.up) = start.take (start.length - count) := by
  induction count generalizing start with
  | zero => simp [descend]
  | succ count induction =>
      have next := induction (move start .up)
      simp only [descend, List.replicate_succ, List.foldl_cons] at next ⊢
      rw [next, move, List.dropLast_eq_take, List.take_take, List.length_take]
      congr 1
      omega

theorem map_name_toList (names : List (List Char)) :
    (names.map String.ofList).map (fun name => Component.name name.toList) =
      names.map Component.name := by
  simp [Function.comp_def]

/-- The normalized absolute path to a place. -/
def absoluteRoute (location : Location) : Path :=
  .ofComponents (.root :: location.map fun name => .name name.toList)

/-- A normalized absolute path is the route to the place its components lead to. -/
theorem normalize_of_isAbsolute {path : Path} (absolute : path.isAbsolute = true) :
    path.normalize = absoluteRoute path.place := by
  have normal := Path.isNormal_normalizeComponents path
  rw [absolute] at normal
  rcases normal with ⟨base, names, isBase, -, shape⟩
  cases isBase
  have named : path.place = names.map String.ofList := by
    rw [Path.place, ← descend_normalizeComponents, shape, descend_append, descend_names]
    rfl
  rw [Path.normalize, shape, absoluteRoute, named, map_name_toList]
  rfl

/-- The normalized path to a place that goes up a number of steps first. -/
def relativeRoute (workingDirectory location : Location) (ups : Nat) : Path :=
  .ofComponents (List.replicate ups .up ++
    (location.drop (workingDirectory.length - ups)).map fun name => .name name.toList)

def routesTo (workingDirectory location : Location) : List Path :=
  absoluteRoute location ::
    (List.range (pathLimit + 1)).map (relativeRoute workingDirectory location)

/-- The normalized paths to the files of a tree. -/
def routes (tree : FileTree) (workingDirectory : Location) : List Path :=
  tree.files.flatMap (routesTo workingDirectory)

theorem length_routes (tree : FileTree) (workingDirectory : Location) :
    (tree.routes workingDirectory).length = tree.files.length * (pathLimit + 2) := by
  have each : ∀ location, (routesTo workingDirectory location).length = pathLimit + 2 := by
    intro location
    simp [routesTo]
  simp only [routes, List.length_flatMap, each, List.map_const', List.sum_replicate_nat]

namespace LeadsToFile

variable {tree : FileTree} {workingDirectory location : Location} {path : Path}

theorem descend_normalize (leads : tree.LeadsToFile workingDirectory path location) :
    location = descend (origin workingDirectory path)
      (Path.normalizeComponents path.components) := by
  rw [descend_normalizeComponents]
  exact resolve_eq_descend leads.resolved

theorem eq_place (leads : tree.LeadsToFile workingDirectory path location)
    (absolute : path.isAbsolute = true) : location = path.place := by
  have place := resolve_eq_descend leads.resolved
  rwa [origin, if_pos absolute] at place

theorem normalize_eq_absoluteRoute (leads : tree.LeadsToFile workingDirectory path location)
    (absolute : path.isAbsolute = true) : path.normalize = absoluteRoute location := by
  rw [normalize_of_isAbsolute absolute, leads.eq_place absolute]

/-- The steps up in a path are bounded by the bytes of a path. -/
theorem ups_le {count : Nat} {names : List (List Char)}
    (leads : tree.LeadsToFile workingDirectory path location)
    (shape : Path.normalizeComponents path.components =
      List.replicate count .up ++ names.map Component.name) : count ≤ pathLimit := by
  have fits := (resolve_eq_ok_iff.mp leads.resolved).1.fits
  have kept : ((List.replicate count Component.up).map Component.segment).Sublist
      (Path.segmentsOf path.characters) := by
    have prefixed : (List.replicate count Component.up).Sublist
        (Path.normalizeComponents path.components) := by
      rw [shape]
      exact List.sublist_append_left _ _
    exact ((prefixed.trans (Path.normalizeComponents_sublist _)).map _).trans
      (Path.map_segment_components_sublist path)
  have space := Path.spaceOf_le_of_sublist kept
  have whole := Path.byteCount_joinSegments (Path.segmentsOf_ne_nil path.characters)
  rw [Path.joinSegments_segmentsOf] at whole
  have textBytes : Path.byteCount path.characters = path.text.utf8ByteSize := by
    rw [Path.byteCount, Path.characters, String.ofList_toList]
  have upBytes : count * 3 = Path.spaceOf ((List.replicate count Component.up).map
      Component.segment) := by
    clear shape kept space
    induction count with
    | zero => rfl
    | succ count induction =>
        have two : Path.byteCount ['.', '.'] = 2 := by decide
        rw [List.replicate_succ, List.map_cons, Path.spaceOf, ← induction, Component.segment, two]
        omega
  omega

/-- The normalized path to a file is one of the routes of the tree. -/
theorem normalize_mem_routes (leads : tree.LeadsToFile workingDirectory path location) :
    path.normalize ∈ tree.routes workingDirectory := by
  refine List.mem_flatMap.mpr ⟨location, leads.mem_files, ?_⟩
  cases absolute : path.isAbsolute with
  | true =>
      rw [leads.normalize_eq_absoluteRoute absolute]
      exact List.mem_cons_self
  | false =>
      have place := leads.descend_normalize
      have normal := Path.isNormal_normalizeComponents path
      rw [absolute] at normal
      rcases normal with ⟨base, names, isBase, -, shape⟩
      cases isBase with
      | ups count =>
          have bounded := leads.ups_le shape
          rw [shape, descend_append, descend_names, descend_ups, origin,
            if_neg (by simp [absolute])] at place
          have rest :
              location.drop (workingDirectory.length - count) = names.map String.ofList := by
            rw [place, List.drop_left' (by simp)]
          have route : path.normalize = relativeRoute workingDirectory location count := by
            rw [Path.normalize, shape, relativeRoute, rest, map_name_toList]
          rw [route]
          exact List.mem_cons_of_mem _
            (List.mem_map_of_mem (List.mem_range.mpr (Nat.lt_succ_of_le bounded)))

/-- On the way to a file are the directories above it, and their normalized
paths lead to them. -/
theorem resolve_above (leads : tree.LeadsToFile workingDirectory path location)
    (absolute : path.isAbsolute = true) {other : Path} (otherAbsolute : other.isAbsolute = true)
    (otherNormal : other.normalize = other) (below : other.place ≠ [])
    (above : other.place <+: location) :
    tree.resolve workingDirectory other = .ok other.place := by
  rcases resolve_eq_ok_iff.mp leads.resolved with ⟨isText, walked⟩
  have reached := walk_normalizeComponents walked
  have place := leads.descend_normalize
  have start : origin workingDirectory path = [] := if_pos absolute
  rw [start] at reached place
  have kept : Path.normalizeComponents other.components = other.components := by
    rw [← Path.components_normalize, otherNormal]
  have otherParts := Path.isNormal_normalizeComponents other
  rw [otherAbsolute, kept] at otherParts
  have parts := Path.isNormal_normalizeComponents path
  rw [absolute] at parts
  have longer : other.components <+: Path.normalizeComponents path.components := by
    rcases otherParts with ⟨base, names, isBase, -, shape⟩
    rcases parts with ⟨otherBase, more, isOtherBase, -, otherShape⟩
    cases isBase
    cases isOtherBase
    rw [Path.place, shape, descend_append, descend_names] at above
    rw [place, otherShape, descend_append, descend_names] at above
    have named := List.IsPrefix.map (fun name => Component.name name.toList) above
    change (names.map String.ofList).map (fun name => Component.name name.toList) <+:
      (more.map String.ofList).map (fun name => Component.name name.toList) at named
    rw [map_name_toList, map_name_toList] at named
    rw [shape, otherShape]
    exact (List.prefix_append_right_inj _).mpr named
  rcases longer with ⟨rest, cut⟩
  rw [← cut, List.map_append] at reached
  rcases walk_append.mp reached with ⟨middle, before, -⟩
  have sublist : (other.components.map Component.segment).Sublist
      (Path.segmentsOf path.characters) := by
    refine List.Sublist.trans (List.Sublist.map _ ?_) (Path.map_segment_components_sublist path)
    refine List.Sublist.trans ?_ (Path.normalizeComponents_sublist path.components)
    rw [← cut]
    exact List.sublist_append_left _ _
  have otherStart : origin workingDirectory other = [] := if_pos otherAbsolute
  have spelling : other = .ofComponents other.components := by
    rw [← kept]
    exact otherNormal.symm
  have rooted := Path.components_of_isAbsolute otherAbsolute
  have nonempty : other.components ≠ [] := by
    rw [rooted]
    exact List.cons_ne_nil _ _
  have filled : other.components.map Component.segment ≠ [[]] := by
    intro blank
    rw [rooted, List.map_cons, List.cons.injEq, List.map_eq_nil_iff] at blank
    rw [Path.place, rooted, blank.2] at below
    exact below rfl
  have resolved := resolve_of_parts isText otherParts spelling nonempty filled sublist
    (otherStart ▸ before)
  rw [resolved, resolve_eq_descend resolved, otherStart, Path.place]

end LeadsToFile

end FileTree

namespace Path

/-- A normalized absolute path has the names of its place as steps. -/
theorem components_eq_place {path : Path} (absolute : path.isAbsolute = true)
    (normal : path.normalize = path) :
    path.components = .root :: path.place.map fun name => .name name.toList := by
  have shape := isNormal_normalizeComponents path
  rw [absolute, ← components_normalize, normal] at shape
  rcases shape with ⟨base, names, isBase, -, shape⟩
  cases isBase
  rw [place, shape, FileTree.descend_append, FileTree.descend_names]
  exact congrArg (Component.root :: ·) (FileTree.map_name_toList names).symm

end Path

open ScriptBundle.Path (Component)

namespace FileTree

theorem routeSteps_nil (names : List (List Char)) :
    Path.routeSteps true [] (names.map Component.name) =
      some (List.replicate names.length .up) := by
  induction names with
  | nil => rfl
  | cons name rest induction =>
      rw [List.map_cons, Path.routeSteps, induction]
      rfl

/-- There is a route between any two lists of names; it makes steps only, and
leads from where the first names lead to where the others lead. -/
theorem exists_routeSteps (target base : List (List Char))
    (areNames : ∀ name ∈ target, Path.IsName name) :
    ∃ parts, Path.routeSteps false (target.map Component.name) (base.map Component.name) =
        some parts ∧
      (∀ part ∈ parts, Path.IsStep part) ∧
      ∀ start, descend (start ++ base.map String.ofList) parts =
        start ++ target.map String.ofList := by
  induction base generalizing target with
  | nil =>
      refine ⟨target.map .name, by simp [Path.routeSteps], Path.isStep_names areNames, ?_⟩
      intro start
      rw [List.map_nil, List.append_nil, descend_names]
  | cons baseName base induction =>
      cases target with
      | nil =>
          refine ⟨.up :: List.replicate base.length .up, ?_, ?_, ?_⟩
          · rw [List.map_nil, List.map_cons, Path.routeSteps, routeSteps_nil]
            rfl
          · intro part member
            rw [← List.replicate_succ] at member
            exact List.eq_of_mem_replicate member ▸ .up
          · intro start
            rw [← List.replicate_succ, descend_ups]
            simp
      | cons name target =>
          have others : ∀ other ∈ target, Path.IsName other :=
            fun other member => areNames other (List.mem_cons_of_mem _ member)
          by_cases shared : name = baseName
          · subst shared
            rcases induction target others with ⟨parts, routed, areSteps, leads⟩
            refine ⟨parts, ?_, areSteps, fun start => ?_⟩
            · rw [List.map_cons, List.map_cons, Path.routeSteps, if_pos (by simp), routed]
            · have further := leads (start ++ [String.ofList name])
              simpa using further
          · refine ⟨List.replicate (base.length + 1) .up ++ (name :: target).map .name, ?_,
              Path.isStep_ups_names areNames _, fun start => ?_⟩
            · rw [List.map_cons, List.map_cons, Path.routeSteps, if_neg (by simp [shared]),
                if_neg (by simp), if_neg (by simp)]
              simp [List.replicate_succ, List.map_const', Function.comp_def]
            · rw [descend_append, descend_ups, descend_names]
              simp

end FileTree

namespace Path

/-- The route to a file that its identifier spells. -/
def route (root file : Path) : Path :=
  (file.normalize.relativeTo root).getD file.normalize

theorem identifier_eq (root file : Path) :
    identifier root file = "./" ++ slashed (route root file).text :=
  rfl

theorem slashed_of_not_mem {text : String} (absent : '\\' ∉ text.toList) :
    slashed text = text := by
  rw [slashed, List.map_congr_left (g := id)]
  · simp
  · intro character member
    have different : character ≠ '\\' := by
      rintro rfl
      exact absent member
    rw [if_neg different, id]

/-- Identifiers are the same if the routes are the same once backslashes are
slashes. -/
theorem identifier_eq_iff {root file other : Path} :
    identifier root file = identifier root other ↔
      slashed (route root file).text = slashed (route root other).text := by
  rw [identifier_eq, identifier_eq]
  constructor
  · intro same
    have characters := congrArg String.toList same
    rw [String.toList_append, String.toList_append] at characters
    exact String.toList_inj.mp (List.append_cancel_left characters)
  · intro same
    rw [same]

/-- A route makes steps and leads from the root to where the file is. -/
theorem exists_route {root file : Path} (rootAbsolute : root.isAbsolute = true)
    (rootNormal : root.normalize.components = root.components)
    (absolute : file.isAbsolute = true) :
    ∃ parts, route root file = ofComponents parts ∧
      (∀ part ∈ parts, IsStep part) ∧ FileTree.descend root.place parts = file.place := by
  have rootShape := isNormal_normalizeComponents root
  rw [← components_normalize, rootNormal, rootAbsolute] at rootShape
  rcases rootShape with ⟨base, rootNames, isBase, -, rootParts⟩
  cases isBase
  have shape := isNormal_normalizeComponents file
  rw [absolute] at shape
  rcases shape with ⟨_, names, isBase, areNames, fileParts⟩
  cases isBase
  rcases FileTree.exists_routeSteps names rootNames areNames with ⟨parts, routed, areSteps, leads⟩
  refine ⟨parts, ?_, areSteps, ?_⟩
  · rw [route, relativeTo, isAbsolute_normalize, absolute, rootAbsolute, if_pos rfl,
      components_normalize, fileParts, rootParts, List.singleton_append, List.singleton_append,
      routeSteps, if_pos (by simp), routed]
    rfl
  · rw [place, place, ← FileTree.descend_normalizeComponents [] file.components, fileParts,
      rootParts, FileTree.descend_append, FileTree.descend_append, FileTree.descend_names,
      FileTree.descend_names]
    exact leads []

/-- Files with one route from a root that is absolute and normalized have one
normalized path. -/
theorem normalize_eq_of_route_eq {root file other : Path} (rootAbsolute : root.isAbsolute = true)
    (rootNormal : root.normalize = root) (absolute : file.isAbsolute = true)
    (otherAbsolute : other.isAbsolute = true) (same : route root file = route root other) :
    file.normalize = other.normalize := by
  have sameRoot := congrArg components rootNormal
  rcases exists_route rootAbsolute sameRoot absolute with ⟨parts, routed, areSteps, leads⟩
  rcases exists_route rootAbsolute sameRoot otherAbsolute with
    ⟨otherParts, otherRouted, otherAreSteps, otherLeads⟩
  rw [routed, otherRouted] at same
  -- the steps of a route are read back from its text
  have sameParts : parts = otherParts := by
    rw [← components_ofComponents_steps areSteps, ← components_ofComponents_steps otherAreSteps,
      same]
  rw [FileTree.normalize_of_isAbsolute absolute, FileTree.normalize_of_isAbsolute otherAbsolute,
    ← leads, ← otherLeads, sameParts]

end Path

/-- Absolute paths to files lead to one file if their routes are the same. -/
theorem FileTree.LeadsToFile.eq_iff_route_eq {tree : FileTree}
    {workingDirectory place otherPlace : Location} {root file other : Path}
    (rootAbsolute : root.isAbsolute = true)
    (rootNormal : root.normalize = root)
    (leads : tree.LeadsToFile workingDirectory file place) (absolute : file.isAbsolute = true)
    (otherLeads : tree.LeadsToFile workingDirectory other otherPlace)
    (otherAbsolute : other.isAbsolute = true) :
    place = otherPlace ↔ Path.route root file = Path.route root other := by
  constructor
  · rintro rfl
    rw [Path.route, Path.route, leads.normalize_eq_absoluteRoute absolute,
      otherLeads.normalize_eq_absoluteRoute otherAbsolute]
  · intro same
    have sameNormal :=
      Path.normalize_eq_of_route_eq rootAbsolute rootNormal absolute otherAbsolute same
    have moved := leads.normalize
    rw [sameNormal] at moved
    exact moved.unique otherLeads.normalize

end ScriptBundle
