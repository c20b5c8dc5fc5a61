import ScriptBundle.Proofs.Overwriting
import ScriptBundle.Proofs.Part

/-!
# Changes that are made again

The directories on the way to a directory of a tree can be made again in any
part of the tree, by going up from it to what is still there and then down
again; and a file can be written again where the tree has one.  Nothing comes
to be on the way that the tree does not have.

So bundles that a tree holds can be written again when some of the tree was
removed.
-/

namespace ScriptBundle

namespace FileTree

variable {tree part whole changed : FileTree} {workingDirectory location parent : Location}
  {path above top bottom : Path} {missing : List Path} {front : List (List Char)}
  {last : List Char}

theorem startOf_of_isAbsolute (absolute : path.isAbsolute = true) (isText : IsPathText path)
    (workingDirectory : Location) : startOf workingDirectory path = .ok ([], path.tail) := by
  have fits : ¬ path.text.utf8ByteSize > pathLimit := Nat.not_lt.mpr isText.fits
  simp [startOf, isText.nonempty, isText.noNull, fits, absolute, Path.tail]

/-- A path that ends in a step names what this leads to, and is refused if the
step leads up. -/
theorem placeOf_eq (tree : FileTree) (workingDirectory : Location)
    (absolute : path.isAbsolute = true) (isText : IsPathText path)
    (cut : path.tail = front ++ [last]) (filled : Path.isBlank last = false)
    (refused : FileError) (trailingSlash : Option FileError) :
    tree.placeOf workingDirectory path refused trailingSlash = (do
      let parent ← tree.walk [] front
      let place ← tree.enter parent last
      if last = ['.', '.'] then .error refused else pure place) := by
  have notEmpty : last ≠ [] := by
    rintro rfl
    cases filled
  have notHere : last ≠ ['.'] := by
    rintro rfl
    cases filled
  have kept : ((front ++ [last]).reverse.dropWhile (· = [])).reverse = front ++ [last] := by
    simp [notEmpty]
  rw [placeOf, startOf_of_isAbsolute absolute isText, cut]
  simp only [bind, Except.bind, kept, List.dropLast_concat, List.getLast?_concat, notHere,
    decide_false, Bool.false_or, decide_eq_true_eq, lt_irrefl, if_false]

/-- A directory can be made where the one above it is, or is there. -/
theorem makeDirectory_below (partOf : part.PartOf whole) (leads : whole.LeadsToDirectory path)
    (cut : path.tail = front ++ [last]) (filled : Path.isBlank last = false)
    (entered : whole.enter parent last = .ok path.place) (walked : part.walk [] front = .ok parent)
    (workingDirectory : Location) :
    (∃ changed, part.makeDirectory workingDirectory path = .ok changed ∧ changed.PartOf whole ∧
        changed.LeadsToDirectory path) ∨
      part.makeDirectory workingDirectory path = .error .alreadyExists ∧
        part.LeadsToDirectory path := by
  have present : (part.entryAt parent).isSome = true :=
    isSome_of_walk (by rw [entryAt_root]; rfl) walked
  have enteredPart := partOf.enter present entered
  -- where the path leads, whatever is made there
  have arrives (other : FileTree) (keeps : Keeps [] part other)
      (directory : other.hasDirectory path.place = true) : other.LeadsToDirectory path := by
    refine ⟨leads.absolute, leads.isText, leads.ends, ?_, directory⟩
    rw [cut]
    refine walk_append.mpr ⟨parent, keeps.walk walked, walk_cons.mpr ⟨path.place, ?_, rfl⟩⟩
    refine step_eq_ok_iff.mpr ⟨keeps.enter enteredPart, ?_⟩
    rw [hasDirectory_iff.mp directory]
    rfl
  have same : Keeps [] part part := (Overlay.refl part).keeps
  have named := placeOf_eq part workingDirectory leads.absolute
    leads.isText cut filled .alreadyExists none
  simp only [walked, enteredPart, bind, Except.bind] at named
  by_cases up : last = ['.', '.']
  · right
    have back : path.place = parent.dropLast := by
      rw [enter_eq (hasDirectory_of_enter entered), filled, if_neg Bool.false_ne_true,
        if_pos up] at entered
      exact (Except.ok.inj entered).symm
    rw [if_pos up] at named
    refine ⟨?_, arrives part same (back ▸ hasDirectory_dropLast_of_walk walked)⟩
    rw [makeDirectory, named]
    rfl
  · rw [if_neg up] at named
    cases held : part.entryAt path.place with
    | none =>
        left
        have overlay : Overlay [] [path.place] part (part.put path.place .directory) :=
          .putDirectory held
        refine ⟨part.put path.place .directory, ?_, partOf.overlay overlay ?_ ?_, ?_⟩
        · simp [makeDirectory, named, held, bind, Except.bind, pure, Except.pure]
        · intro place content written
          cases written
        · intro place listed
          rw [List.mem_singleton.mp listed]
          exact hasDirectory_iff.mp leads.directory
        · apply arrives _ overlay.keeps
          rw [hasDirectory_iff]
          exact overlay.directory_of_made (List.mem_singleton.mpr rfl)
    | some entry =>
        right
        have there : (part.entryAt path.place).isSome = true := by
          rw [held]
          rfl
        refine ⟨?_, arrives part same (partOf.hasDirectory there leads.directory)⟩
        simp [makeDirectory, named, held, bind, Except.bind, pure, Except.pure]

/-- The paths from one directory down to another, each with the one before it
as the directory above it. -/
inductive Down (tree : FileTree) : Path → List Path → Path → Prop where
  | here (path : Path) : Down tree path [] path
  | further {top next bottom : Path} {rest : List Path} (above : next.parent = some top)
      (leads : tree.LeadsToDirectory next) (later : Down tree next rest bottom) :
      Down tree top (next :: rest) bottom

theorem makeMissing_again (partOf : part.PartOf whole) (leads : part.LeadsToDirectory top)
    (down : whole.Down top missing bottom) (workingDirectory : Location) :
    ∃ changed, makeMissing workingDirectory part missing = (changed, .ok ()) ∧
      changed.PartOf whole ∧ changed.LeadsToDirectory bottom := by
  induction down generalizing part with
  | here path => exact ⟨part, rfl, partOf, leads⟩
  | @further top next bottom rest above leadsNext later induction =>
      rcases leadsNext.ends with none | ⟨front, last, cut, filled⟩
      · -- there is nothing above the root
        have stops := Path.parent_eq_none_of_tail leadsNext.absolute none
        rw [stops] at above
        cases above
      · rcases exists_above leadsNext.absolute leadsNext.isText cut filled leadsNext.walked with
          ⟨found, isAbove, -, entered, -, walks⟩
        rw [above] at isAbove
        cases isAbove
        rcases makeDirectory_below partOf leadsNext cut filled entered (walks part leads)
          workingDirectory with ⟨changed, made, changedPart, changedLeads⟩ | ⟨refused, there⟩
        · rw [makeMissing, made]
          exact induction changedPart changedLeads
        · rw [makeMissing, refused]
          simp only [decide_true, there.isDirectory, Bool.and_self, if_true]
          exact induction partOf there

theorem makeUpwards_again (partOf : part.PartOf whole) (leads : whole.LeadsToDirectory path)
    (down : whole.Down path missing bottom) {fuel : Nat} (enough : path.characters.length < fuel)
    (workingDirectory : Location) :
    ∃ changed, makeUpwards workingDirectory part missing (ancestorsOf fuel path) =
        (changed, .ok ()) ∧ changed.PartOf whole ∧ changed.LeadsToDirectory bottom := by
  induction fuel generalizing path missing with
  | zero => exact absurd enough (Nat.not_lt_zero _)
  | succ fuel induction =>
      rw [ancestorsOf, if_neg leads.isText.nonempty]
      rcases leads.ends with none | ⟨front, last, cut, filled⟩
      · -- the root is there
        rw [Path.parent_eq_none_of_tail leads.absolute none]
        exact makeMissing_again partOf (leads.of_tail none part) down workingDirectory
      · rcases exists_above leads.absolute leads.isText cut filled leads.walked with
          ⟨above, isAbove, leadsAbove, entered, shorter, walks⟩
        rw [isAbove]
        dsimp only
        rcases partOf.walk (by rw [entryAt_root]; rfl) (walks whole leadsAbove) with
          walked | notThere
        · rcases makeDirectory_below partOf leads cut filled entered walked workingDirectory with
            ⟨changed, made, changedPart, changedLeads⟩ | ⟨refused, there⟩
          · rw [makeUpwards, made]
            exact makeMissing_again changedPart changedLeads down workingDirectory
          · rw [makeUpwards, refused]
            simp only [decide_true, there.isDirectory, Bool.and_self, if_true]
            exact makeMissing_again partOf there down workingDirectory
        · have refused : part.makeDirectory workingDirectory path = .error .notFound := by
            rw [makeDirectory, placeOf_eq part workingDirectory leads.absolute leads.isText cut
              filled, notThere]
            rfl
          rw [makeUpwards, refused]
          exact induction leadsAbove (.further isAbove leads down) (by omega)

/-- The directories on the way to a directory of the whole tree can be made in
a part of it. -/
theorem makeDirectories_again (partOf : part.PartOf whole) (leads : whole.LeadsToDirectory path)
    (workingDirectory : Location) :
    ∃ changed, part.makeDirectories workingDirectory path = (changed, .ok ()) ∧
      changed.PartOf whole ∧ changed.LeadsToDirectory path :=
  makeUpwards_again partOf leads (.here path) (Nat.lt_succ_self _) workingDirectory

/-- Where the whole tree has a file, a part has no directory. -/
theorem PartOf.no_directory {content : ByteArray} (partOf : part.PartOf whole)
    (isFile : whole.entryAt location = some (.file content)) :
    part.entryAt location ≠ some .directory := by
  intro directory
  rw [partOf.directory location directory] at isFile
  cases isFile

/-- A file of the whole tree can be written in a part that has the directory
above it. -/
theorem writeFile_again (partOf : part.PartOf whole)
    (found : whole.LeadsToFile workingDirectory path location) (absolute : path.isAbsolute = true)
    (isAbove : path.parent = some above) (leads : part.LeadsToDirectory above)
    (content : ByteArray) :
    ∃ changed, part.writeFile workingDirectory path content = .ok changed ∧
      changed.PartOf whole := by
  rcases found.ends absolute with ⟨front, last, cut, filled, notUp⟩
  rcases (resolve_iff_of_isAbsolute absolute).mp found.resolved with ⟨isText, walked⟩
  rcases found.isFile with ⟨old, isFile⟩
  rcases exists_above absolute isText cut filled walked with ⟨parent, same, -, entered, -, walks⟩
  rw [isAbove] at same
  cases same
  have walkedPart := walks part leads
  have present : (part.entryAt above.place).isSome = true :=
    isSome_of_walk (by rw [entryAt_root]; rfl) walkedPart
  have named := placeOf_eq part workingDirectory absolute isText
    cut filled .isDirectory (some .isDirectory)
  simp only [walkedPart, partOf.enter present entered, bind, Except.bind, if_neg notUp] at named
  have free := partOf.no_directory isFile
  refine ⟨part.put location (.file content), ?_, partOf.overlay (.putFile content free) ?_ ?_⟩
  · rw [writeFile, named]
    cases held : part.entryAt location with
    | none => simp [held, bind, Except.bind, pure, Except.pure]
    | some entry =>
        cases entry with
        | directory => exact absurd held free
        | file other => simp [held, bind, Except.bind, pure, Except.pure]
  · intro place other written
    rw [lookup_singleton] at written
    split at written
    · next here =>
      rw [here]
      exact ⟨old, isFile⟩
    · cases written
  · intro place listed
    cases listed

end FileTree

namespace Asset

variable {world : World} {asset : Asset} {assets : List Asset} {whole : FileTree}

/-- The directories on the way to a bundle that was written are there. -/
theorem hasDirectory_of_mem_trail (absolute : asset.path.isAbsolute = true)
    (found : whole.LeadsToFile [] asset.path asset.path.place) :
    ∀ location ∈ asset.trail, whole.hasDirectory location = true := by
  rcases found.exists_above absolute with ⟨above, isAbove, leads⟩
  intro location listed
  rw [trail, isAbove] at listed
  rcases List.mem_map.mp listed with ⟨higher, onTheWay, rfl⟩
  have leadsHigher := FileTree.leadsToDirectory_of_mem_ancestorsOf leads onTheWay
  rw [Path.destination_eq_place leadsHigher.absolute]
  exact leadsHigher.directory

/-- A bundle that a tree holds can be written to any part of the tree. -/
theorem write_again (absolute : asset.path.isAbsolute = true)
    (found : whole.LeadsToFile [] asset.path asset.path.place)
    (partOf : world.tree.PartOf whole) :
    ∃ after, asset.write world = (.ok (), after) ∧ after.tree.PartOf whole := by
  rcases found.exists_above absolute with ⟨above, isAbove, leads⟩
  rcases FileTree.makeDirectories_again partOf leads world.workingDirectory with
    ⟨grown, made, grownPart, grownLeads⟩
  rcases FileTree.writeFile_again grownPart (found.of_isAbsolute absolute world.workingDirectory)
    absolute isAbove grownLeads asset.text.toUTF8 with ⟨filled, wrote, filledPart⟩
  refine ⟨({ world with tree := filled } : World).record (.wrote asset.path), ?_, filledPart⟩
  rw [write, isAbove]
  dsimp only
  have grows : Build.makeDirectories above world = (.ok (), { world with tree := grown }) := by
    rw [Build.makeDirectories, Action.bind_apply, Action.get_apply]
    simp only [made]
    rfl
  have fills : Build.writeFile asset.path asset.text { world with tree := grown } =
      (.ok (), { world with tree := filled }) := by
    rw [Build.writeFile_apply]
    simp only [wrote]
  rw [Action.bind_apply, grows]
  dsimp only
  rw [Action.bind_apply, fills]
  rfl

theorem writeAll_again (absolute : ∀ asset ∈ assets, asset.path.isAbsolute = true)
    (found : ∀ asset ∈ assets, whole.LeadsToFile [] asset.path asset.path.place)
    (partOf : world.tree.PartOf whole) :
    ∃ after, assets.forM write world = (.ok (), after) ∧ after.tree.PartOf whole := by
  induction assets generalizing world with
  | nil => exact ⟨world, rfl, partOf⟩
  | cons asset rest induction =>
      rcases List.forall_mem_cons.mp absolute with ⟨firstAbsolute, restAbsolute⟩
      rcases List.forall_mem_cons.mp found with ⟨firstFound, restFound⟩
      rcases write_again firstAbsolute firstFound partOf with ⟨middle, wrote, middlePart⟩
      rcases induction restAbsolute restFound middlePart with ⟨after, later, afterPart⟩
      refine ⟨after, ?_, afterPart⟩
      change (asset.write >>= fun _ => rest.forM write) world = _
      rw [Action.bind_apply, wrote]
      exact later

end Asset

end ScriptBundle
