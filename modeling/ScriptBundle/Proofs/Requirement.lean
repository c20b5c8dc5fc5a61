import ScriptBundle.ModuleBuilder
import ScriptBundle.Proofs.Action
import ScriptBundle.Proofs.Substitution

/-!
# What a module requires

Making a module reads its file, transforms the text, reads the script in it and
follows its specifiers.  All of this only looks at files.  So what comes of it
is a function of the files, which is stated here without the journal: the files
that the specifiers lead to, in the order in which they are visited, tell the
identifiers that the module requires and the files it was the first to find.
-/

namespace ScriptBundle

/-- The file that a specifier leads to from a directory. -/
def Linker.fileFor? (linker : Linker) (world : World) (directory : Path)
    (specifier : String) : Option Path :=
  (candidates linker.extensions directory specifier).find?
    (world.tree.isFile world.workingDirectory)

namespace Build

theorem isFile_keepsFiles (path : Path) : Action.KeepsFiles (isFile path) := by
  refine .bind .get fun world => ?_
  exact .bind (.record _) fun _ => .pure _

theorem isFile_fst (path : Path) (world : World) :
    (isFile path world).1 = .ok (world.tree.isFile world.workingDirectory path) :=
  rfl

theorem firstFile_keepsFiles (paths : List Path) : Action.KeepsFiles (firstFile paths) := by
  induction paths with
  | nil => exact .pure none
  | cons path rest induction =>
      refine .bind (isFile_keepsFiles path) fun found => ?_
      cases found with
      | true => exact .pure _
      | false => exact induction

theorem firstFile_fst (paths : List Path) (world : World) :
    (firstFile paths world).1 =
      .ok (paths.find? (world.tree.isFile world.workingDirectory)) := by
  induction paths generalizing world with
  | nil => rfl
  | cons path rest induction =>
      rw [firstFile, Action.bind_apply]
      have kept := isFile_keepsFiles path world
      rcases asked : isFile path world with ⟨answer, middle⟩
      have told := isFile_fst path world
      rw [asked] at kept told
      subst told
      cases found : world.tree.isFile world.workingDirectory path with
      | true => simp [found, Action.pure_apply]
      | false =>
          have later := induction middle
          rw [kept.tree, kept.workingDirectory] at later
          simpa [List.find?_cons, found] using later

theorem resolve_keepsFiles (extensions : List String) (directory : Path) (specifier : String) :
    Action.KeepsFiles (resolve extensions directory specifier) := by
  refine .bind (firstFile_keepsFiles _) fun found => ?_
  cases found with
  | none => exact .throw _
  | some path => exact .bind (.record _) fun _ => .pure path

end Build

namespace Linker

/-- A specifier leads to the first of its candidates that is a file. -/
theorem resolve_fst (linker : Linker) (directory : Path) (specifier : String) (world : World) :
    (Build.resolve linker.extensions directory specifier world).1 =
      match linker.fileFor? world directory specifier with
      | some path => .ok path
      | none => .error (.resolution specifier directory) := by
  rw [Build.resolve, Action.bind_apply, fileFor?]
  have told := Build.firstFile_fst (candidates linker.extensions directory specifier) world
  rcases asked : Build.firstFile (candidates linker.extensions directory specifier) world with
    ⟨answer, middle⟩
  rw [asked] at told
  subst told
  cases (candidates linker.extensions directory specifier).find?
      (world.tree.isFile world.workingDirectory) <;> rfl

theorem fileFor?_congr (linker : Linker) {left right : World} (same : left.SameFiles right) :
    linker.fileFor? left = linker.fileFor? right := by
  funext directory specifier
  rw [fileFor?, fileFor?, same.tree, same.workingDirectory]

end Linker

namespace References

/-- The references with one more, where a specifier may lead nowhere. -/
def addFound (identify : Path → String) (directory : Path) (known : String → Bool)
    (references : References) (specifier : String) :
    Option Path → Except BuildError References
  | .some path => .ok (references.add known (identify path) path)
  | .none => .error (.resolution specifier directory)

/-- The references with those of more specifiers, up to the first that leads
nowhere. -/
def gather (identify : Path → String) (fileFor? : String → Option Path) (directory : Path)
    (known : String → Bool) (specifiers : List String) (references : References) :
    Except BuildError References :=
  specifiers.foldlM
    (fun references specifier =>
      references.addFound identify directory known specifier (fileFor? specifier))
    references

end References

namespace Linker

/-- The references of the module in a directory that names the given
specifiers. -/
def gather (linker : Linker) (world : World) (directory : Path) (known : String → Bool)
    (specifiers : List String) (references : References) : Except BuildError References :=
  references.gather (Path.identifier linker.root) (linker.fileFor? world directory) directory
    known specifiers

/-- The identifier that a specifier leads to. -/
def idFor? (linker : Linker) (world : World) (directory : Path) (specifier : String) :
    Option String :=
  (linker.fileFor? world directory specifier).map (Path.identifier linker.root)

/-- What takes the place of a specifier. -/
def nameFor (linker : Linker) (world : World) (directory : Path) (specifier : String) : String :=
  (linker.idFor? world directory specifier).getD ""

theorem nameFor_congr {linker : Linker} {left right : World} (same : left.SameFiles right) :
    linker.nameFor left = linker.nameFor right := by
  funext directory specifier
  rw [nameFor, nameFor, idFor?, idFor?, linker.fileFor?_congr same]

variable {linker : Linker} {world : World} {directory : Path} {known : String → Bool}

/-- An action that, on the files of a world, changes none of them and gathers
the references of the given specifiers; if all of these lead to files, then it
gives a result. -/
def Gathers {Result : Type} (linker : Linker) (world : World) (directory : Path)
    (known : String → Bool) (specifiers : List String) (result : Result)
    (action : StateT References (Action BuildError) Result) : Prop :=
  ∀ references now, now.SameFiles world → ∃ after : World, after.SameFiles world ∧
    action references now =
      ((linker.gather world directory known specifiers references).map
        fun gathered => (result, gathered), after)

namespace Gathers

theorem pure {Result : Type} (result : Result) :
    Gathers linker world directory known [] result (Pure.pure result) := by
  intro references now same
  exact ⟨now, same, rfl⟩

theorem bind {Result Next : Type} {specifiers others : List String} {result : Result}
    {following : Next} {first : StateT References (Action BuildError) Result}
    {next : Result → StateT References (Action BuildError) Next}
    (gathers : Gathers linker world directory known specifiers result first)
    (continues : Gathers linker world directory known others following (next result)) :
    Gathers linker world directory known (specifiers ++ others) following (first >>= next) := by
  intro references now same
  rcases gathers references now same with ⟨middle, middleSame, told⟩
  have opened : (first >>= next) references now =
      (first references >>= fun outcome => next outcome.1 outcome.2 :
        Action BuildError (Next × References)) now := rfl
  have split : linker.gather world directory known (specifiers ++ others) references =
      linker.gather world directory known specifiers references >>= fun gathered =>
        linker.gather world directory known others gathered :=
    List.foldlM_append
  rw [opened, Action.bind_apply, told, split]
  cases linker.gather world directory known specifiers references with
  | error cause => exact ⟨middle, middleSame, rfl⟩
  | ok gathered => exact continues gathered middle middleSame

theorem bind_pure {Result Next : Type} {specifiers : List String} {result : Result}
    {first : StateT References (Action BuildError) Result}
    (gathers : Gathers linker world directory known specifiers result first)
    (finish : Result → Next) :
    Gathers linker world directory known specifiers (finish result)
      (first >>= fun outcome => Pure.pure (finish outcome)) := by
  have whole : Gathers linker world directory known (specifiers ++ []) (finish result)
      (first >>= fun outcome => Pure.pure (finish outcome)) := gathers.bind (.pure _)
  rwa [List.append_nil] at whole

end Gathers

/-- Identifying a specifier gathers its reference. -/
theorem identify_gathers (linker : Linker) (world : World) (directory : Path)
    (known : String → Bool) (specifier : String) :
    Gathers linker world directory known [specifier] (linker.nameFor world directory specifier)
      (linker.identify directory known specifier) := by
  intro references now same
  refine ⟨_, (Build.resolve_keepsFiles linker.extensions directory specifier now).trans same, ?_⟩
  have told := linker.resolve_fst directory specifier now
  rw [linker.fileFor?_congr same] at told
  rw [identify, nameFor, idFor?, gather, References.gather, List.foldlM_cons]
  generalize linker.fileFor? world directory specifier = found at *
  generalize Build.resolve linker.extensions directory specifier = action at *
  -- the state of references is threaded through the action by hand
  have opened : (do
      let path ← (action : Build Path)
      let id := Path.identifier linker.root path
      modify fun references => References.add references known id path
      Pure.pure id : StateT References (Action BuildError) String) references now =
      (action >>= fun path => Pure.pure
        (Path.identifier linker.root path,
          references.add known (Path.identifier linker.root path) path) :
          Action BuildError (String × References)) now := by
    change StateT.run (_ : StateT References (Action BuildError) String) references now = _
    simp only [StateT.run_bind, StateT.run_monadLift, StateT.run_modify, StateT.run_pure,
      bind_assoc, pure_bind, monadLift_self]
  rw [opened, Action.bind_apply]
  rcases asked : action now with ⟨answer, after⟩
  rw [asked] at told
  subst told
  cases found <;> rfl

mutual

/-- Replacing the specifiers of a tree gathers their references, and gives the
tree with the identifiers that they lead to. -/
theorem replaceSpecifiers_gathers (linker : Linker) (world : World) (directory : Path)
    (known : String → Bool) : ∀ node : Script.Node,
      Gathers linker world directory known node.specifiers
        (node.rename (linker.nameFor world directory))
        (node.replaceSpecifiers (linker.identify directory known))
  | .mk kind start finish parts => by
      rw [Script.Node.replaceSpecifiers, Script.Node.specifiers, Script.Node.rename_mk]
      cases Script.Node.specifier? kind parts with
      | some specifier =>
          exact (identify_gathers linker world directory known specifier).bind_pure fun id =>
            Script.Node.mk kind start finish (Script.Node.withSpecifier id parts)
      | none =>
          exact (replaceAllSpecifiers_gathers linker world directory known parts).bind_pure
            (Script.Node.mk kind start finish)

theorem replaceAllSpecifiers_gathers (linker : Linker) (world : World) (directory : Path)
    (known : String → Bool) : ∀ nodes : List Script.Node,
      Gathers linker world directory known (Script.Node.allSpecifiers nodes)
        (nodes.map (Script.Node.rename (linker.nameFor world directory)))
        (Script.Node.replaceAllSpecifiers (linker.identify directory known) nodes)
  | [] => .pure _
  | first :: rest =>
      (replaceSpecifiers_gathers linker world directory known first).bind
        ((replaceAllSpecifiers_gathers linker world directory known rest).bind_pure
          (first.rename (linker.nameFor world directory) :: ·))

end

/-- Linking changes no file, and fails or gathers the references of the
specifiers in the script, whose identifiers take their place. -/
theorem link_eq (linker : Linker) (known : String → Bool) (path : Path) (source : String)
    (world : World) :
    (linker.link known path source world).2.SameFiles world ∧
      (linker.link known path source world).1 =
        match Script.Program.read? source with
        | none => .error (.parse path)
        | some program =>
          (linker.gather world path.directory known program.tree.specifiers .none).map
            fun references =>
              ⟨Script.Program.print
                { program with tree := program.tree.rename (linker.nameFor world path.directory) },
                references⟩ := by
  rw [link]
  cases Script.Program.read? source with
  | none => exact ⟨.refl world, rfl⟩
  | some program =>
      rcases replaceSpecifiers_gathers linker world path.directory known program.tree .none world
        (.refl world) with ⟨after, same, told⟩
      dsimp only
      rw [Action.bind_apply, StateT.run, told]
      cases linker.gather world path.directory known program.tree.specifiers .none with
      | error cause => exact ⟨same, rfl⟩
      | ok references => exact ⟨(World.record_sameFiles _ _).trans same, rfl⟩

end Linker

/-! ## Loaders -/

namespace Pipeline

/-- The text that the loaders of a list make of a text, the last loader first. -/
def transformBy (path : Path) (loaders : List Loader) (source : String) :
    Except BuildError String :=
  loaders.reverse.foldlM
    (fun text loader => (loader.transform text path).mapError (.transform loader.name path))
    source

def transform (pipeline : Pipeline) (path : Path) (source : String) : Except BuildError String :=
  transformBy path (pipeline.matching path) source

theorem loader_run_apply (loader : Loader) (path : Path) (source : String) (world : World) :
    loader.run path source world =
      ((loader.transform source path).mapError (.transform loader.name path),
        world.record (.applyingLoader loader.name path)) := by
  rw [Loader.run, Action.bind_apply, Action.record_apply]
  dsimp only
  cases loader.transform source path <;> rfl

/-- Running loaders changes no file, and its result hangs on the text only. -/
theorem apply_apply (pipeline : Pipeline) (path : Path) (source : String) (world : World) :
    (pipeline.apply path source world).2.SameFiles world ∧
      (pipeline.apply path source world).1 = pipeline.transform path source := by
  rw [apply, runLoaders, transform, transformBy]
  induction (pipeline.matching path).reverse generalizing source world with
  | nil => exact ⟨.refl world, rfl⟩
  | cons loader rest induction =>
      rw [List.foldlM_cons, List.foldlM_cons, Action.bind_apply, loader_run_apply]
      cases loader.transform source path with
      | error cause => exact ⟨World.record_sameFiles _ _, rfl⟩
      | ok text =>
          rcases induction text (world.record (.applyingLoader loader.name path)) with
              ⟨same, result⟩
          exact ⟨same.trans (World.record_sameFiles _ _), result⟩

end Pipeline

namespace ModuleBuilder

/-- The text of a module as its loaders leave it. -/
def textOf (builder : ModuleBuilder) (world : World) (path : Path) :
    Except BuildError String := do
  let raw ← (world.tree.readText world.workingDirectory path).mapError (.read path)
  builder.pipeline.transform path raw

/-- The references of the module in a file. -/
def references (builder : ModuleBuilder) (world : World) (known : String → Bool)
    (path : Path) : Except BuildError References := do
  let text ← builder.textOf world path
  match Script.Program.read? text with
  | none => .error (.parse path)
  | some program =>
    builder.linker.gather world path.directory known program.tree.specifiers .none

/-- What can be said of a module from its file and from what was known when it
was made. -/
structure Made (builder : ModuleBuilder) (world : World) (known : String → Bool)
    (owner : String) (path : Path) (added : Module) : Prop where
  hasId : added.id = builder.idOf path
  hasOwner : added.owner = owner
  hasPath : added.path = path
  hasReferences :
    builder.references world known path = .ok ⟨added.dependencies, added.requires⟩

theorem readFile_apply (path : Path) (world : World) :
    Build.readFile path world =
      ((world.tree.readText world.workingDirectory path).mapError (BuildError.read path),
        world.record (.read path)) := by
  rw [Build.readFile, Action.bind_apply, Action.record_apply]
  dsimp only
  rw [Action.bind_apply, Action.get_apply]
  dsimp only [World.record_tree, World.record_workingDirectory]
  cases world.tree.readText world.workingDirectory path <;> rfl

/-- The module that a text of a file makes, when some identifiers are known. -/
def moduleFrom (builder : ModuleBuilder) (world : World) (known : String → Bool) (owner : String)
    (path : Path) (text : String) : Except BuildError Module :=
  match Script.Program.read? text with
  | none => .error (.parse path)
  | some program =>
    (builder.linker.gather world path.directory known program.tree.specifiers .none).map
      fun references => {
        id := builder.idOf path
        owner := owner
        path := path
        source := Script.Program.print
          { program with tree := program.tree.rename (builder.linker.nameFor world path.directory) }
        dependencies := references.dependencies
        requires := references.requires }

/-- The module in a file, as it is made when some identifiers are known. -/
def moduleOf (builder : ModuleBuilder) (world : World) (known : String → Bool) (owner : String)
    (path : Path) : Except BuildError Module :=
  builder.textOf world path >>= builder.moduleFrom world known owner path

/-- Making a module changes no file, and what is made hangs on the files and on
what is known. -/
theorem make_eq (builder : ModuleBuilder) (known : String → Bool) (owner : String)
    (path : Path) (world : World) :
    (builder.make known owner path world).2.SameFiles world ∧
      (builder.make known owner path world).1 = builder.moduleOf world known owner path := by
  rw [make, Action.bind_apply, Action.record_apply]
  dsimp only
  rw [Action.bind_apply, readFile_apply, World.record_tree, World.record_workingDirectory]
  generalize started : (world.record _).record _ = reading
  have readingSame : reading.SameFiles world := by
    subst started
    exact ⟨rfl, rfl⟩
  cases content : world.tree.readText world.workingDirectory path with
  | error cause =>
      refine ⟨readingSame, ?_⟩
      rw [moduleOf, textOf, content]
      rfl
  | ok raw =>
      rw [Action.mapError_ok]
      dsimp only
      rw [Action.bind_apply]
      rcases builder.pipeline.apply_apply path raw reading with ⟨appliedSame, applied⟩
      have moduleOf_eq : builder.moduleOf world known owner path =
          builder.pipeline.transform path raw >>= builder.moduleFrom world known owner path := by
        rw [moduleOf, textOf, content]
        rfl
      rcases ran : builder.pipeline.apply path raw reading with ⟨transformed, linking⟩
      rw [ran] at appliedSame applied
      rw [← applied] at moduleOf_eq
      rw [moduleOf_eq]
      have linkingSame : linking.SameFiles world := appliedSame.trans readingSame
      cases transformed with
      | error cause => exact ⟨linkingSame, rfl⟩
      | ok text =>
          dsimp only
          rw [Action.bind_apply]
          rcases builder.linker.link_eq known path text linking with ⟨linkedSame, linked⟩
          simp only [Linker.gather, Linker.nameFor_congr linkingSame,
            builder.linker.fileFor?_congr linkingSame] at linked
          rcases ran : builder.linker.link known path text linking with ⟨result, after⟩
          rw [ran] at linkedSame linked
          have same : after.SameFiles world := linkedSame.trans linkingSame
          dsimp only at linked
          change _ ∧ _ = builder.moduleFrom world known owner path text
          rw [moduleFrom]
          subst linked
          cases Script.Program.read? text with
          | none => exact ⟨same, rfl⟩
          | some program =>
              dsimp only
              rw [Linker.gather]
              cases References.gather (Path.identifier builder.linker.root)
                  (builder.linker.fileFor? world path.directory) path.directory known
                  program.tree.specifiers .none with
              | error cause => exact ⟨same, rfl⟩
              | ok references => exact ⟨same, rfl⟩

/-- A module is made of what its file holds, or the failure is that of its
references. -/
theorem moduleOf_cases (builder : ModuleBuilder) (world : World) (known : String → Bool)
    (owner : String) (path : Path) :
    match builder.moduleOf world known owner path with
    | .ok added => builder.Made world known owner path added
    | .error cause => builder.references world known path = .error cause := by
  have opened : builder.references world known path = builder.textOf world path >>= fun text =>
      match Script.Program.read? text with
      | none => .error (.parse path)
      | some program =>
        builder.linker.gather world path.directory known program.tree.specifiers .none := rfl
  rw [moduleOf]
  cases transformed : builder.textOf world path with
  | error cause =>
      rw [transformed] at opened
      exact opened
  | ok text =>
      rw [transformed] at opened
      change match builder.moduleFrom world known owner path text with
        | .ok added => builder.Made world known owner path added
        | .error cause => builder.references world known path = .error cause
      rw [moduleFrom]
      cases read : Script.Program.read? text with
      | none =>
          simp only [bind, Except.bind, read] at opened
          exact opened
      | some program =>
          simp only [bind, Except.bind, read] at opened
          dsimp only
          cases gathered : builder.linker.gather world path.directory known
              program.tree.specifiers .none with
          | error cause => exact opened.trans gathered
          | ok references => exact ⟨rfl, rfl, rfl, opened.trans gathered⟩

theorem make_apply (builder : ModuleBuilder) (known : String → Bool) (owner : String)
    (path : Path) (world : World) :
    (builder.make known owner path world).2.SameFiles world ∧
      match (builder.make known owner path world).1 with
      | .ok added => builder.Made world known owner path added
      | .error cause => builder.references world known path = .error cause := by
  rcases builder.make_eq known owner path world with ⟨same, made⟩
  rw [made]
  exact ⟨same, builder.moduleOf_cases world known owner path⟩

end ModuleBuilder

end ScriptBundle
