import ScriptBundle.Script.Grammar.Expression

/-!
# Statements

A statement that needs a semicolon at its end may leave it out before a brace
that closes, at the end of a line, and at the end of the text.
-/

namespace ScriptBundle.Script.Reader

def atStatementEnd : Reader Bool := do
  let current ← token
  pure (current.afterLineEnd || current.kind = .mark ";" || current.kind = .mark "\x7d" ||
    current.kind = .finish)

/-- Read an expression in parentheses that a statement demands. -/
def condition (recur : Recur) : Reader Node := do
  expectMark "("
  let value ← recur (.expression true)
  expectMark ")"
  pure value

/-- Read an expression, or none if the given mark is at hand. -/
def expressionBefore (recur : Recur) (close : String) : Reader Node := do
  if ← isMark close then pure .absent else recur (.expression true)

/-- Read a variable that is declared.  In the head of a loop the value may
come from the loop; elsewhere a constant and a pattern need one. -/
def declarator (recur : Recur) (keyword : String) (inHead : Bool) : Reader Node := do
  let start ← position
  let target ← recur .binding
  if ← acceptMark "=" then
    let value ← recur (.assignment !inHead)
    node .declarator start [target, value]
  else do
    let isPattern := target.kind = .arrayTarget || target.kind = .objectTarget
    let fromLoop := inHead && ((← isWord "in") || (← isWord "of"))
    require (fromLoop || (keyword ≠ "const" && !isPattern))
    node .declarator start [target, .absent]

/-- Read declared variables from their keyword on. -/
def declarators (recur : Recur) (inHead : Bool) : Reader (String × List Node) := do
  let keyword ← anyName
  let first ← declarator recur keyword inHead
  let others ← manyUntil (do pure !(← isMark ",")) (do
    expectMark ","
    declarator recur keyword inHead)
  pure (keyword, first :: others)

def variablesStatement (recur : Recur) : Reader Node := do
  let start ← position
  let (keyword, declared) ← declarators recur false
  endStatement
  node (.variables keyword) start declared

def loopBody (recur : Recur) : Reader Node := do
  expectMark ")"
  recur (.statement false)

def loopOver (recur : Recur) (start : Nat) (awaits : Bool) (target : Node) : Reader Node := do
  if ← acceptWord "of" then
    let items ← recur (.assignment true)
    let body ← loopBody recur
    node (.forOf awaits) start [target, items, body]
  else do
    expectWord "in"
    require !awaits
    let object ← recur (.expression true)
    let body ← loopBody recur
    node .forIn start [target, object, body]

def countingLoop (recur : Recur) (start : Nat) (first : Node) : Reader Node := do
  expectMark ";"
  let test ← expressionBefore recur ";"
  expectMark ";"
  let update ← expressionBefore recur ")"
  let body ← loopBody recur
  node .forStatement start [first, test, update, body]

/-- Whether a loop over items or keys goes on here. -/
def atLoopWord : Reader Bool := do
  pure ((← isWord "of") || (← isWord "in"))

def loopWithVariables (recur : Recur) (start : Nat) (awaits : Bool) : Reader Node := do
  let headStart ← position
  let (keyword, declared) ← declarators recur true
  let head ← node (.variables keyword) headStart declared
  if ← atLoopWord then
    require (declared.length = 1 && ((head.part 0).part 1).isAbsent)
    loopOver recur start awaits head
  else do
    require !awaits
    countingLoop recur start head

/-- Read a loop whose head starts with an expression.  The target of a loop
over items is not the bare name `async`, unless the loop waits for them. -/
def loopWithExpression (recur : Recur) (start : Nat) (awaits : Bool) : Reader Node := do
  let isAsync ← isWord "async"
  let head ← recur (.expression false)
  if ← atLoopWord then
    require (awaits || !(isAsync && head.kind = .identifier "async" && (← isWord "of")))
    let target ← given (asTarget? false head)
    require (target.kind ≠ .defaultTarget)
    loopOver recur start awaits target
  else do
    require !awaits
    countingLoop recur start head

def forLoop (recur : Recur) : Reader Node := do
  let start ← position
  expectWord "for"
  let awaits ← acceptWord "await"
  expectMark "("
  if ← isMark ";" then
    require !awaits
    countingLoop recur start .absent
  else if (← isWord "var") || (← isWord "let") || (← isWord "const") then
    loopWithVariables recur start awaits
  else
    loopWithExpression recur start awaits

def whileLoop (recur : Recur) : Reader Node := do
  let start ← position
  expectWord "while"
  let test ← condition recur
  let body ← recur (.statement false)
  node .whileStatement start [test, body]

def doLoop (recur : Recur) : Reader Node := do
  let start ← position
  expectWord "do"
  let body ← recur (.statement false)
  expectWord "while"
  let test ← condition recur
  let _ ← acceptMark ";"
  node .doStatement start [test, body]

def ifChoice (recur : Recur) : Reader Node := do
  let start ← position
  expectWord "if"
  let test ← condition recur
  let consequence ← recur (.statement false)
  let alternative ←
    if ← acceptWord "else" then recur (.statement false) else pure Node.absent
  node .ifStatement start [test, consequence, alternative]

def switchCase (recur : Recur) : Reader Node := do
  let start ← position
  let test ←
    if ← acceptWord "default" then
      pure Node.absent
    else do
      expectWord "case"
      recur (.expression true)
  expectMark ":"
  let atNext : Reader Bool := do
    pure ((← isWord "case") || (← isWord "default") || (← isMark "\x7d"))
  let statements ← manyUntil atNext (recur (.statement true))
  node .switchCase start (test :: statements)

/-- Read a choice among cases, of which at most one is the default. -/
def switchChoice (recur : Recur) : Reader Node := do
  let start ← position
  expectWord "switch"
  let value ← condition recur
  expectMark "\x7b"
  let cases ← manyUntil (isMark "\x7d") (switchCase recur)
  expectMark "\x7d"
  require ((cases.filter fun branch => (branch.part 0).isAbsent).length ≤ 1)
  node .switchStatement start (value :: cases)

def catchClause (recur : Recur) : Reader Node := do
  let start ← position
  expectWord "catch"
  let target ←
    if ← acceptMark "(" then do
      let target ← recur .binding
      expectMark ")"
      pure target
    else
      pure Node.absent
  let body ← blockOf recur
  node .catchClause start [target, body]

/-- Read a guarded block with at least one clause after it. -/
def guarded (recur : Recur) : Reader Node := do
  let start ← position
  expectWord "try"
  let body ← blockOf recur
  let handler ← if ← isWord "catch" then catchClause recur else pure Node.absent
  let final ← if ← acceptWord "finally" then blockOf recur else pure Node.absent
  require (!handler.isAbsent || !final.isAbsent)
  node .tryStatement start [body, handler, final]

/-- Read a return; its value starts on the same line. -/
def returnJump (recur : Recur) : Reader Node := do
  let start ← position
  expectWord "return"
  let value ← if ← atStatementEnd then pure Node.absent else recur (.expression true)
  endStatement
  node .returnStatement start [value]

/-- Read a throw; its value starts on the same line. -/
def throwJump (recur : Recur) : Reader Node := do
  let start ← position
  expectWord "throw"
  require !(← token).afterLineEnd
  let value ← recur (.expression true)
  endStatement
  node .throwStatement start [value]

def labelJump (word : String) (kind : Option String → Kind) : Reader Node := do
  let start ← position
  expectWord word
  let label ← if ← atStatementEnd then pure none else some <$> variableName
  endStatement
  node (kind label) start []

def functionStatement (recur : Recur) : Reader Node := do
  let start ← position
  let isAsync ← acceptWord "async"
  let function ← functionFrom recur start isAsync true
  node .functionDeclaration start [function]

def classStatement (recur : Recur) : Reader Node := do
  let start ← position
  let declared ← classFrom recur true
  node .classDeclaration start [declared]

/-- Read a statement that is an expression, or a label and the statement that
it names.  A function cannot have a label. -/
def expressionOrLabeled (recur : Recur) : Reader Node := do
  let start ← position
  let value ← recur (.expression true)
  match value.kind with
  | .identifier label =>
    if ← acceptMark ":" then
      require !(← isWord "function")
      let body ← recur (.statement false)
      node (.labeled label) start [body]
    else do
      endStatement
      node .expressionStatement start [value]
  | _ =>
    endStatement
    node .expressionStatement start [value]

/-- Whether a function that may wait starts here. -/
def atAsyncFunction : Reader Bool := do
  let following ← nextToken
  pure ((← isWord "async") && following.kind = .name "function" false && !following.afterLineEnd)

/-- Whether the token at hand starts an expression with `import`. -/
def atImportExpression : Reader Bool := do
  let following ← nextToken
  pure ((← isWord "import") && (following.kind = .mark "(" || following.kind = .mark "."))

def wordStatement (recur : Recur) (declarations : Bool) (word : String) : Reader Node := do
  match word with
  | "var" => variablesStatement recur
  | "let" | "const" => do
    require declarations
    variablesStatement recur
  | "function" => do
    require declarations
    functionStatement recur
  | "class" => do
    require declarations
    classStatement recur
  | "if" => ifChoice recur
  | "for" => forLoop recur
  | "while" => whileLoop recur
  | "do" => doLoop recur
  | "switch" => switchChoice recur
  | "try" => guarded recur
  | "return" => returnJump recur
  | "throw" => throwJump recur
  | "break" => labelJump "break" .breakStatement
  | "continue" => labelJump "continue" .continueStatement
  | "debugger" => do
    let start ← position
    advance
    endStatement
    node .debuggerStatement start []
  | "import" => do
    require (← atImportExpression)
    expressionOrLabeled recur
  | "async" => do
    if ← atAsyncFunction then functionStatement recur else expressionOrLabeled recur
  | _ => expressionOrLabeled recur

/-- Read a statement; `declarations` tells whether it may be a declaration. -/
def statementGoal (recur : Recur) (declarations : Bool) : Reader Node := do
  match (← token).kind with
  | .mark "\x7b" => blockOf recur
  | .mark ";" => do
    let start ← position
    advance
    node .emptyStatement start []
  | .name word false => wordStatement recur declarations word
  | _ => expressionOrLabeled recur

end ScriptBundle.Script.Reader
