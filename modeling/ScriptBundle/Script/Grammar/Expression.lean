import ScriptBundle.Script.Grammar.Function

/-!
# Expressions

Operators with two operands are collected with their operands first and then
grouped by how tightly they bind.
-/

namespace ScriptBundle.Script.Reader

/-- Go on after characters that were read outside the tokens. -/
def continueAfter (kind : TokenKind) (cursor : Cursor) (after : List Char) : Reader Unit :=
  continueAt kind (cursor.advance (cursor.rest.length - after.length))

def regularExpression : Reader Node := do
  let current ← token
  let (body, flags, after) ← given (readRegular? current.here.rest)
  continueAfter .regularExpression current.here after
  node (.regularExpression body flags) current.start []

/-- Read the texts and expressions of a template from a cursor inside it on. -/
def templateParts (recur : Recur) (allowsBroken : Bool) :
    Nat → Cursor → Reader (List String × List Node)
  | 0, _ => refuse
  | fuel + 1, cursor => do
    let part ← given (readTemplatePart? cursor.rest)
    require (allowsBroken || !part.isBroken)
    continueAfter (.templatePart part.isLast) cursor part.after
    let text := String.ofList part.text
    if part.isLast then
      pure ([text], [])
    else do
      let value ← recur (.expression true)
      let closing ← token
      require (closing.kind = .mark "\x7d")
      let (texts, values) ← templateParts recur allowsBroken fuel closing.after
      pure (text :: texts, value :: values)

def template (recur : Recur) (allowsBroken : Bool) : Reader Node := do
  let opening ← token
  require (opening.kind = .mark "\x60")
  let (texts, values) ←
    templateParts recur allowsBroken (opening.after.rest.length + 1) opening.after
  node (.template texts) opening.start values

/-- Read an item that may be spread. -/
def spreadable (recur : Recur) : Reader Node := do
  let start ← position
  if ← acceptMark "..." then
    let value ← recur (.assignment true)
    node .spread start [value]
  else
    recur (.assignment true)

/-- Read an item of a list and the comma after it; the second part of the
result tells whether there was one after an item. -/
def arrayItem (recur : Recur) : Reader (Node × Bool) := do
  if ← acceptMark "," then
    pure (.absent, false)
  else do
    let item ← spreadable recur
    if ← isMark "]" then
      pure (item, false)
    else
      expectMark ","
      pure (item, true)

/-- Read a list of items. -/
def arrayLiteral (recur : Recur) : Reader Node := do
  let start ← position
  expectMark "["
  let items ← manyUntil (isMark "]") (arrayItem recur)
  expectMark "]"
  let commaAtEnd := (items.getLast?).any Prod.snd
  node (.array commaAtEnd) start (items.map Prod.fst)

/-- Read a property of an object that is neither spread nor a method, after its
key. -/
def plainProperty (recur : Recur) (start : Nat) (isVariable : Bool) (key : Node) :
    Reader Node := do
  if ← acceptMark ":" then
    let value ← recur (.assignment true)
    node .property start [key, value]
  else
    match key.kind with
    | .name name =>
      require (isVariable && !reservedWords.contains name)
      let named := Node.mk (.identifier name) key.start key.finish []
      if ← acceptMark "=" then
        let value ← recur (.assignment true)
        node .shorthandDefault start [named, value]
      else
        node .shorthand start [named]
    | _ => refuse

def objectProperty (recur : Recur) : Reader Node := do
  let start ← position
  if ← acceptMark "..." then
    let value ← recur (.assignment true)
    node .spread start [value]
  else do
    let begun ← memberStart false
    let isVariable :=
      match (← token).kind with
      | .name _ _ => true
      | _ => false
    let key ← propertyKey recur false
    if ← isMark "(" then
      let parts ← methodParts recur
      require (parametersFit begun.role (parts.headD .absent))
      node (.objectMethod begun.role begun.isAsync begun.isGenerator) start (key :: parts)
    else do
      require (begun.role = .method && !begun.isAsync && !begun.isGenerator)
      plainProperty recur start isVariable key

/-- Read a property and the comma after it. -/
def objectItem (recur : Recur) : Reader (Node × Bool) := do
  let item ← objectProperty recur
  if ← isMark "\x7d" then
    pure (item, false)
  else
    expectMark ","
    pure (item, true)

def objectLiteral (recur : Recur) : Reader Node := do
  let start ← position
  expectMark "\x7b"
  let items ← manyUntil (isMark "\x7d") (objectItem recur)
  expectMark "\x7d"
  let commaAtEnd := (items.getLast?).any Prod.snd
  node (.object commaAtEnd) start (items.map Prod.fst)

def coverItem (recur : Recur) : Reader (Node × Bool) := do
  if ← isMark "..." then
    pure (← restBinding recur ")", false)
  else do
    let item ← recur (.assignment true)
    if ← isMark ")" then
      pure (item, false)
    else
      expectMark ","
      pure (item, true)

/-- Read what stands in parentheses, which may turn out to be the parameters of
an arrow function. -/
def cover (recur : Recur) : Reader (List Node × Bool) := do
  expectMark "("
  let items ← manyUntil (isMark ")") (coverItem recur)
  expectMark ")"
  pure (items.map Prod.fst, (items.getLast?).any Prod.snd)

def sequenceNode (items : List Node) : Node :=
  match items, items.getLast? with
  | [only], _ => only
  | first :: others, some last => .mk .sequence first.start last.finish (first :: others)
  | _, _ => .absent

/-- What stood in parentheses as an expression. -/
def parenthesizedFrom (start : Nat) (items : List Node) (commaAtEnd : Bool) : Reader Node := do
  require (!items.isEmpty && !commaAtEnd && !items.any (·.kind = .restTarget))
  node .parenthesized start [sequenceNode items]

def argument (recur : Recur) : Reader (Node × Bool) := do
  let item ← spreadable recur
  if ← isMark ")" then
    pure (item, false)
  else
    expectMark ","
    pure (item, true)

/-- Read the arguments of a call, and whether a comma comes after them. -/
def arguments (recur : Recur) : Reader (List Node × Bool) := do
  expectMark "("
  let items ← manyUntil (isMark ")") (argument recur)
  expectMark ")"
  pure (items.map Prod.fst, (items.getLast?).any Prod.snd)

/-! ## Primary expressions -/

def namedPrimary (recur : Recur) (value : String) (escaped : Bool) : Reader Node := do
  let start ← position
  if escaped then
    let name ← variableName
    node (.identifier name) start []
  else if ["this", "null", "true", "false"].contains value then
    advance
    node (.word value) start []
  else if value = "function" then
    functionFrom recur start false false
  else if value = "class" then
    classFrom recur false
  else if value = "async" then
    let following ← nextToken
    if following.kind = .name "function" false && !following.afterLineEnd then
      advance
      functionFrom recur start true false
    else
      advance
      node (.identifier value) start []
  else do
    let name ← variableName
    node (.identifier name) start []

/-- Read an expression without operators and properties. -/
def primary (recur : Recur) : Reader Node := do
  let current ← token
  match current.kind with
  | .name value escaped => namedPrimary recur value escaped
  | .number text =>
    advance
    node (.number text) current.start []
  | .bigInteger text =>
    advance
    node (.bigInteger text) current.start []
  | .string _ _ => stringNode
  | .mark "(" =>
    let (items, commaAtEnd) ← cover recur
    parenthesizedFrom current.start items commaAtEnd
  | .mark "[" => arrayLiteral recur
  | .mark "\x7b" => objectLiteral recur
  | .mark "\x60" => template recur false
  | .mark "/" => regularExpression
  | .mark "/=" => regularExpression
  | _ => refuse

def propertyName : Reader Node := do
  let start ← position
  match (← token).kind with
  | .privateName value =>
    advance
    node (.privateName value) start []
  | _ => nameNode anyName

def optionalLink (recur : Recur) (start : Nat) (head : Node) : Reader Node := do
  if ← isMark "(" then
    let (values, _) ← arguments recur
    node (.call true) start (head :: values)
  else if ← acceptMark "[" then
    let value ← recur (.expression true)
    expectMark "]"
    node (.index true) start [head, value]
  else do
    let name ← propertyName
    node (.member true) start [head, name]

/-- Read one link of a chain after its head, if there is one.  Calls and
optional links are left alone where `allowsCalls` does not hold. -/
def link (recur : Recur) (allowsCalls : Bool) (start : Nat) (head : Node) :
    Reader (Option Node) := do
  match (← token).kind with
  | .mark "." =>
    advance
    let name ← propertyName
    pure (some (← node (.member false) start [head, name]))
  | .mark "[" =>
    advance
    let value ← recur (.expression true)
    expectMark "]"
    pure (some (← node (.index false) start [head, value]))
  | .mark "\x60" =>
    require (!hasOptionalLink head)
    let text ← template recur true
    pure (some (← node .taggedTemplate start [head, text]))
  | .mark "(" =>
    if allowsCalls then
      let (values, commaAtEnd) ← arguments recur
      require (!(commaAtEnd && head.kind = .word "import"))
      pure (some (← node (.call false) start (head :: values)))
    else
      pure none
  | .mark "?." =>
    require allowsCalls
    advance
    pure (some (← optionalLink recur start head))
  | _ => pure none

def linksFrom (recur : Recur) (allowsCalls : Bool) (start : Nat) : Nat → Node → Reader Node
  | 0, _ => refuse
  | fuel + 1, head => do
    match ← link recur allowsCalls start head with
    | some longer => linksFrom recur allowsCalls start fuel longer
    | none => pure head

/-- Read the links of a chain after its head.  There are not more of them than
characters left. -/
def links (recur : Recur) (allowsCalls : Bool) (head : Node) : Reader Node := do
  linksFrom recur allowsCalls head.start ((← token).here.rest.length + 1) head

/-- Read what starts with `super`: a property or a call. -/
def superHead : Reader Node := do
  let start ← position
  expectWord "super"
  let kind := (← token).kind
  require (kind = .mark "(" || kind = .mark "." || kind = .mark "[")
  node (.word "super") start []

/-- Read what starts with `import` inside an expression: a call or a property
of the module. -/
def importHead (allowsCalls : Bool) : Reader Node := do
  let start ← position
  expectWord "import"
  if ← acceptMark "." then
    expectWord "meta"
    node (.metaProperty "import.meta") start []
  else do
    require (allowsCalls && (← isMark "("))
    node (.word "import") start []

def construction (recur : Recur) : Reader Node := do
  let start ← position
  expectWord "new"
  if ← acceptMark "." then
    expectWord "target"
    node (.metaProperty "new.target") start []
  else do
    let callee ← recur .constructed
    if ← isMark "(" then
      let (values, _) ← arguments recur
      node (.construct true) start (callee :: values)
    else do
      require (!(← isMark "?."))
      node (.construct false) start [callee]

def chainHead (recur : Recur) (allowsCalls : Bool) : Reader Node := do
  if ← isWord "super" then superHead
  else if ← isWord "import" then importHead allowsCalls
  else if ← isWord "new" then construction recur
  else primary recur

/-- Read a chain of properties and calls; its head may have been read. -/
def chain (recur : Recur) (head : Option Node) : Reader Node := do
  let head ←
    match head with
    | some head => pure head
    | none => chainHead recur true
  links recur true head

/-- Read what stands after `new`: a chain without calls. -/
def constructedGoal (recur : Recur) : Reader Node := do
  let head ← chainHead recur false
  links recur false head

/-! ## Operators -/

/-- The marks that are operators before one operand. -/
def unaryMarks : List String :=
  ["+", "-", "~", "!"]

/-- The words that are operators before one operand. -/
def unaryWords : List String :=
  ["delete", "void", "typeof"]

/-- Read an operand with the operators around it that have no other operand;
its head may have been read. -/
def operand (recur : Recur) (head : Option Node) : Reader Node := do
  let current ← token
  let prefixed (kind : Kind) : Reader Node := do
    advance
    let value ← recur .unary
    node kind current.start [value]
  let plain : Reader Node := do
    let value ← chain recur head
    let following ← token
    if (following.kind = .mark "++" || following.kind = .mark "--") && !following.afterLineEnd then
      require (isParenthesizedTarget value)
      advance
      let operator := if following.kind = .mark "++" then "++" else "--"
      node (.update operator false) value.start [value]
    else
      pure value
  if head.isSome then
    plain
  else
    match current.kind with
    | .mark text =>
      if unaryMarks.contains text then
        prefixed (.unary text)
      else if text = "++" || text = "--" then do
        let result ← prefixed (.update text true)
        require (isParenthesizedTarget (result.part 0))
        pure result
      else
        plain
    | .name text false =>
      if unaryWords.contains text then prefixed (.unary text)
      else if text = "await" then prefixed .await
      else plain
    | _ => plain

def bindingPower (operator : String) : Option Nat :=
  match operator with
  | "??" => some 1
  | "||" => some 2
  | "&&" => some 3
  | "|" => some 4
  | "^" => some 5
  | "&" => some 6
  | "==" | "!=" | "===" | "!==" => some 7
  | "<" | ">" | "<=" | ">=" | "in" | "instanceof" => some 8
  | "<<" | ">>" | ">>>" => some 9
  | "+" | "-" => some 10
  | "*" | "/" | "%" => some 11
  | "**" => some 12
  | _ => none

def binaryOperator? (allowsIn : Bool) (kind : TokenKind) : Option String :=
  match kind with
  | .mark text => if (bindingPower text).isSome then some text else none
  | .name text false =>
    if text = "instanceof" || (text = "in" && allowsIn) then some text else none
  | _ => none

/-- An operator applied to two operands. -/
def binaryNode (operator : String) (left right : Node) : Node :=
  .mk (.binary operator) left.start right.finish [left, right]

/-- Apply waiting operators that bind at least as tightly as `power`.  The
waiting operands and operators are given latest first. -/
def applyWaiting (power : Nat) (current : Node) :
    List (Node × String) → Node × List (Node × String)
  | [] => (current, [])
  | (left, operator) :: waiting =>
    if (bindingPower operator).getD 0 ≥ power then
      applyWaiting power (binaryNode operator left current) waiting
    else
      (current, (left, operator) :: waiting)

/-- Group operands by how tightly the operators between them bind.  Powers
group from the right, all others from the left. -/
def groupOperands (current : Node) (waiting : List (Node × String)) :
    List (String × Node) → Node
  | [] => (applyWaiting 0 current waiting).1
  | (operator, next) :: rest =>
    let power := (bindingPower operator).getD 0
    let (left, waiting) :=
      applyWaiting (if operator = "**" then power + 1 else power) current waiting
    groupOperands next ((left, operator) :: waiting) rest

/-- Read a private name that is asked for in an object, or an operand. -/
def operandOrPrivateName (recur : Recur) (allowsIn : Bool) (head : Option Node) :
    Reader Node := do
  let current ← token
  match head, current.kind with
  | none, .privateName value =>
    advance
    require (allowsIn && (← isWord "in"))
    node (.privateName value) current.start []
  | _, _ => operand recur head

def operandsAfter (recur : Recur) (allowsIn : Bool) : Nat → Reader (List (String × Node))
  | 0 => refuse
  | fuel + 1 => do
    match binaryOperator? allowsIn (← token).kind with
    | none => pure []
    | some operator =>
      advance
      let next ← operandOrPrivateName recur allowsIn none
      let rest ← operandsAfter recur allowsIn fuel
      pure ((operator, next) :: rest)

/-- Read operands with operators between them; the head of the first may have
been read. -/
def binaryExpression (recur : Recur) (allowsIn : Bool) (head : Option Node) : Reader Node := do
  let first ← operandOrPrivateName recur allowsIn head
  let others ← operandsAfter recur allowsIn ((← token).here.rest.length + 1)
  pure (groupOperands first [] others)

def conditionalExpression (recur : Recur) (allowsIn : Bool) (head : Option Node) :
    Reader Node := do
  let condition ← binaryExpression recur allowsIn head
  if ← acceptMark "?" then
    let value ← recur (.assignment true)
    expectMark ":"
    let other ← recur (.assignment allowsIn)
    node .conditional condition.start [condition, value, other]
  else
    pure condition

/-- The marks that assign after an operation. -/
def updateMarks : List String :=
  ["+=", "-=", "*=", "/=", "%=", "**=", "<<=", ">>=", ">>>=", "&=", "|=", "^=", "&&=", "||=",
    "??="]

/-- Read an assignment or an expression without one; its head may have been
read. -/
def assignmentAfter (recur : Recur) (allowsIn : Bool) (head : Option Node) : Reader Node := do
  let left ← conditionalExpression recur allowsIn head
  match (← token).kind with
  | .mark text =>
    if text = "=" then
      let target ← given (asTarget? false left)
      require (target.kind ≠ .defaultTarget)
      advance
      let value ← recur (.assignment allowsIn)
      node (.assignment text) left.start [target, value]
    else if updateMarks.contains text then
      require (isParenthesizedTarget left)
      advance
      let value ← recur (.assignment allowsIn)
      node (.assignment text) left.start [left, value]
    else
      pure left
  | _ => pure left

def yieldExpression (recur : Recur) (allowsIn : Bool) : Reader Node := do
  let start ← position
  expectWord "yield"
  let following ← token
  let isAlone :=
    following.afterLineEnd ||
      match following.kind with
      | .mark text => [")", "]", "\x7d", ",", ";", ":"].contains text
      | .name "in" false => true
      | .name "of" false => true
      | .finish => true
      | _ => false
  if isAlone then
    node (.yield false) start [.absent]
  else do
    let delegates ← acceptMark "*"
    let value ← recur (.assignment allowsIn)
    node (.yield delegates) start [value]

/-- Whether the token at hand is an arrow on the same line. -/
def atArrow : Reader Bool := do
  let current ← token
  pure (current.kind = .mark "=>" && !current.afterLineEnd)

def parametersNode (start : Nat) (commaAtEnd : Bool) (items : List Node) : Reader Node := do
  let targets ← given (asParameters? commaAtEnd items)
  node .parameters start targets

def parenthesisStart (recur : Recur) (allowsIn : Bool) : Reader Node := do
  let start ← position
  let (items, commaAtEnd) ← cover recur
  if ← atArrow then
    let parameters ← parametersNode start commaAtEnd items
    arrowFrom recur start false allowsIn parameters
  else do
    let head ← parenthesizedFrom start items commaAtEnd
    assignmentAfter recur allowsIn (some head)

/-- Read an expression that starts with `async`, which may be a name. -/
def asyncStart (recur : Recur) (allowsIn : Bool) : Reader Node := do
  let start ← position
  let following ← nextToken
  match following.kind with
  | .name value escaped =>
    if following.afterLineEnd || (!escaped && reservedWords.contains value) then
      assignmentAfter recur allowsIn none
    else do
      advance
      let single ← boundVariable
      let parameters ← node .parameters single.start [single]
      arrowFrom recur start true allowsIn parameters
  | .mark "(" =>
    advance
    let head ← node (.identifier "async") start []
    let (values, commaAtEnd) ← arguments recur
    if !following.afterLineEnd && (← atArrow) then
      let parameters ← parametersNode following.start commaAtEnd values
      arrowFrom recur start true allowsIn parameters
    else do
      let called ← node (.call false) start (head :: values)
      assignmentAfter recur allowsIn (some called)
  | _ => assignmentAfter recur allowsIn none

def assignmentGoal (recur : Recur) (allowsIn : Bool) : Reader Node := do
  let current ← token
  match current.kind with
  | .mark "(" => parenthesisStart recur allowsIn
  | .name value escaped =>
    if value = "yield" && !escaped then
      yieldExpression recur allowsIn
    else if (← nextToken).kind = .mark "=>" && (escaped || !reservedWords.contains value) then do
      let single ← boundVariable
      let parameters ← node .parameters single.start [single]
      arrowFrom recur current.start false allowsIn parameters
    else if value = "async" && !escaped then
      asyncStart recur allowsIn
    else
      assignmentAfter recur allowsIn none
  | _ => assignmentAfter recur allowsIn none

def expressionGoal (recur : Recur) (allowsIn : Bool) : Reader Node := do
  let first ← recur (.assignment allowsIn)
  let others ← manyUntil (do pure !(← isMark ",")) (do
    expectMark ","
    recur (.assignment allowsIn))
  pure (sequenceNode (first :: others))

end ScriptBundle.Script.Reader
