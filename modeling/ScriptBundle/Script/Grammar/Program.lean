import ScriptBundle.Script.Grammar.Statement
import ScriptBundle.Text

/-!
# Scripts

A script is a list of statements, imports and exports, which may stand after a
line that names its interpreter.  Here the goals of the grammar are tied
together.
-/

namespace ScriptBundle.Script

/-- A script that was read: its tree, and its comments by place. -/
structure Program where
  tree : Node
  comments : CommentTable
deriving Repr

namespace Reader

/-- Read the name of something that a module gives away, which may be a
string. -/
def sharedName : Reader Node := do
  match (← token).kind with
  | .string _ _ => stringNode
  | _ => nameNode anyName

/-- Read the module that an import or an export names, after `from`. -/
def sourceClause : Reader Node := do
  expectWord "from"
  let source ← stringNode
  endStatement
  pure source

/-- Read names in braces, with commas between them. -/
def specifierList (specifier : Reader Node) : Reader Node := do
  let start ← position
  expectMark "\x7b"
  let items ← manyUntil (isMark "\x7d") (do
    let item ← specifier
    if !(← isMark "\x7d") then
      expectMark ","
    pure item)
  expectMark "\x7d"
  node .specifiers start items

def importSpecifier : Reader Node := do
  let start ← position
  let name ← sharedName
  if ← acceptWord "as" then
    let bound ← boundVariable
    node .specifier start [name, bound]
  else
    match name.kind with
    | .name text =>
      require !reservedWords.contains text
      node .specifier start [name, .absent]
    | _ => refuse

def importedNames : Reader (Node × Node) := do
  if ← acceptMark "*" then
    expectWord "as"
    let bound ← boundVariable
    pure (bound, .absent)
  else do
    let names ← specifierList importSpecifier
    pure (.absent, names)

def importItem : Reader Node := do
  let start ← position
  expectWord "import"
  match (← token).kind with
  | .string _ _ =>
    let source ← stringNode
    endStatement
    node .importDeclaration start [.absent, .absent, .absent, source]
  | .name _ _ =>
    let default ← boundVariable
    let (whole, names) ←
      if ← acceptMark "," then importedNames else pure (Node.absent, Node.absent)
    let source ← sourceClause
    node .importDeclaration start [default, whole, names, source]
  | _ =>
    let (whole, names) ← importedNames
    let source ← sourceClause
    node .importDeclaration start [.absent, whole, names, source]

def exportSpecifier : Reader Node := do
  let start ← position
  let name ← sharedName
  let other ← if ← acceptWord "as" then sharedName else pure Node.absent
  node .specifier start [name, other]

/-- Whether a name of an export can be that of a variable of this module. -/
def isLocalName (specifier : Node) : Bool :=
  match (specifier.part 0).kind with
  | .name text => !reservedWords.contains text
  | _ => false

def exportStar (start : Nat) : Reader Node := do
  if ← acceptWord "as" then
    let name ← sharedName
    let source ← sourceClause
    node .exportNames start [name, .absent, source]
  else
    let source ← sourceClause
    node .exportAll start [source]

def exportList (start : Nat) : Reader Node := do
  let names ← specifierList exportSpecifier
  if ← isWord "from" then
    let source ← sourceClause
    node .exportNames start [.absent, names, source]
  else do
    require (names.parts.all isLocalName)
    endStatement
    node .exportNames start [.absent, names, .absent]

def exportedDefault (recur : Recur) : Reader Node := do
  let start ← position
  if ← atAsyncFunction then
    advance
    functionFrom recur start true false
  else if ← isWord "function" then
    functionFrom recur start false false
  else if ← isWord "class" then
    classFrom recur false
  else do
    let value ← recur (.assignment true)
    endStatement
    pure value

def declarationWords : List String :=
  ["var", "let", "const", "function", "class"]

/-- Whether a declaration starts here. -/
def atDeclaration : Reader Bool := do
  match (← token).kind with
  | .name word false => pure (declarationWords.contains word || (← atAsyncFunction))
  | _ => pure false

def exportItem (recur : Recur) : Reader Node := do
  let start ← position
  expectWord "export"
  if ← acceptMark "*" then
    exportStar start
  else if ← isMark "\x7b" then
    exportList start
  else if ← acceptWord "default" then
    let value ← exportedDefault recur
    node .exportDefault start [value]
  else do
    require (← atDeclaration)
    let declaration ← recur (.statement true)
    node .exportDeclaration start [declaration]

/-- Read a statement, an import or an export. -/
def moduleItem (recur : Recur) : Reader Node := do
  if ← isWord "export" then exportItem recur
  else if (← isWord "import") && !(← atImportExpression) then importItem
  else recur (.statement true)

/-- Read a goal of the grammar that is entered less than `fuel` times inside
itself. -/
def readGoal : (fuel : Nat) → Goal → Reader Node
  | 0, _ => refuse
  | fuel + 1, goal =>
    match goal with
    | .statement declarations => statementGoal (readGoal fuel) declarations
    | .expression allowsIn => expressionGoal (readGoal fuel) allowsIn
    | .assignment allowsIn => assignmentGoal (readGoal fuel) allowsIn
    | .unary => operand (readGoal fuel) none
    | .constructed => constructedGoal (readGoal fuel)
    | .leftHandSide => chain (readGoal fuel) none
    | .binding => bindingGoal (readGoal fuel)

/-- File the comments before the end of the text.  They explain the last token;
in a text without tokens they explain what follows `start`. -/
def fileLastComments (start : Nat) (hasTokens : Bool) : Reader Unit := fun state =>
  let comments := state.token.trailing ++ state.token.leading
  let filed :=
    if hasTokens then state.comments.addTrailing state.lastFinish comments
    else state.comments.addLeading start comments
  some ((), { state with comments := filed })

/-- Read a script from the token at hand on.  Each character opens at most four
goals. -/
def program (start : Nat) (hashbang : Option String) : Reader Node := do
  let fuel := 4 * (← token).here.rest.length + 8
  let atEnd : Reader Bool := do pure ((← token).kind = .finish)
  let items ← manyUntil atEnd (moduleItem (readGoal fuel))
  fileLastComments start (hashbang.isSome || !items.isEmpty)
  node (.program hashbang) start items

end Reader

/-- The line at the start of a script that names its interpreter, without the
mark before it. -/
def hashbang? : List Char → Option (List Char)
  | '#' :: '!' :: rest => some (rest.takeWhile fun character => !isLineEnd character)
  | _ => none

/-- Read a script as the grammar has it, after the mark that may stand before
it. -/
def Program.ofText? (text : String) : Option Program := do
  let characters := Literal.dropMark text.toList
  let line := hashbang? characters
  let cursor := (Cursor.mk characters 0).advance ((line.map (·.length + 2)).getD 0)
  let first ← readToken? .finish true cursor
  let start := if line.isSome then 0 else first.start
  let (tree, state) ←
    Reader.program start (line.map String.ofList) ⟨first, cursor.position, .empty⟩
  pure ⟨tree, state.comments⟩

end ScriptBundle.Script
