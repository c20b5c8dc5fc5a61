import ScriptBundle.Script.Grammar.Target

/-!
# Functions and classes

Functions, arrow functions and classes, wherever they stand.  A name that a
class gives a meaning to, such as `constructor`, is refused where it would
mean something else.
-/

namespace ScriptBundle.Script.Reader

def boundVariable : Reader Node := do
  let start ← position
  let name ← boundName
  node (.identifier name) start []

def bindingWithDefault (recur : Recur) : Reader Node := do
  let start ← position
  let target ← recur .binding
  if ← acceptMark "=" then
    let value ← recur (.assignment true)
    node .defaultTarget start [target, value]
  else
    pure target

/-- Read the rest of a list of bindings, which the given mark has to close. -/
def restBinding (recur : Recur) (close : String) : Reader Node := do
  let start ← position
  expectMark "..."
  let target ← recur .binding
  let rest ← node .restTarget start [target]
  require (← isMark close)
  pure rest

/-- Read an item of a pattern for lists and the comma after it. -/
def arrayBindingItem (recur : Recur) : Reader Node := do
  if ← acceptMark "," then
    pure .absent
  else if ← isMark "..." then
    restBinding recur "]"
  else do
    let item ← bindingWithDefault recur
    if !(← isMark "]") then
      expectMark ","
    pure item

/-- Read a property of a pattern for objects and the comma after it. -/
def objectBindingItem (recur : Recur) : Reader Node := do
  let start ← position
  if ← acceptMark "..." then
    let target ← boundVariable
    let rest ← node .restTarget start [target]
    require (← isMark "\x7d")
    pure rest
  else do
    let isVariable :=
      match (← token).kind with
      | .name _ _ => true
      | _ => false
    let key ← propertyKey recur false
    let item ←
      if ← acceptMark ":" then do
        let target ← bindingWithDefault recur
        node .propertyTarget start [key, target]
      else do
        require isVariable
        match key.kind with
        | .name name =>
          require (!reservedWords.contains name && !fixedNames.contains name)
          let named := Node.mk (.identifier name) key.start key.finish []
          if ← acceptMark "=" then
            let value ← recur (.assignment true)
            node .shorthandTarget start [named, value]
          else
            node .shorthandTarget start [named, .absent]
        | _ => refuse
    if !(← isMark "\x7d") then
      expectMark ","
    pure item

/-- Read a variable or a pattern of variables. -/
def bindingGoal (recur : Recur) : Reader Node := do
  let start ← position
  if ← acceptMark "[" then
    let items ← manyUntil (isMark "]") (arrayBindingItem recur)
    expectMark "]"
    node .arrayTarget start items
  else if ← acceptMark "\x7b" then
    let properties ← manyUntil (isMark "\x7d") (objectBindingItem recur)
    expectMark "\x7d"
    node .objectTarget start properties
  else
    boundVariable

def parameter (recur : Recur) : Reader Node := do
  if ← isMark "..." then
    restBinding recur ")"
  else do
    let item ← bindingWithDefault recur
    if !(← isMark ")") then
      expectMark ","
    pure item

def parameters (recur : Recur) : Reader Node := do
  let start ← position
  expectMark "("
  let items ← manyUntil (isMark ")") (parameter recur)
  expectMark ")"
  node .parameters start items

/-- Read statements in braces. -/
def blockOf (recur : Recur) : Reader Node := do
  let start ← position
  expectMark "\x7b"
  let statements ← manyUntil (isMark "\x7d") (recur (.statement true))
  expectMark "\x7d"
  node .block start statements

/-- Read a function at its word; `isAsync` tells that the word before it was
taken, at `start`.  The name may be left out where `needsName` does not hold. -/
def functionFrom (recur : Recur) (start : Nat) (isAsync needsName : Bool) : Reader Node := do
  expectWord "function"
  let isGenerator ← acceptMark "*"
  let name ←
    if !needsName && (← isMark "(") then pure Node.absent else nameNode boundName
  let parameters ← parameters recur
  let body ← blockOf recur
  node (.function isAsync isGenerator) start [name, parameters, body]

def arrowFrom (recur : Recur) (start : Nat) (isAsync allowsIn : Bool) (parameters : Node) :
    Reader Node := do
  require (!(← token).afterLineEnd)
  expectMark "=>"
  let body ← if ← isMark "\x7b" then blockOf recur else recur (.assignment allowsIn)
  node (.arrow isAsync) start [parameters, body]

def methodParts (recur : Recur) : Reader (List Node) := do
  let parameters ← parameters recur
  let body ← blockOf recur
  pure [parameters, body]

/-- A getter has no parameter, and a setter has one, which is not the rest. -/
def parametersFit (role : MemberKind) (parameters : Node) : Bool :=
  match role with
  | .method => true
  | .getter => parameters.parts.isEmpty
  | .setter =>
    match parameters.parts with
    | [only] => only.kind ≠ .restTarget
    | _ => false

/-- What stands before the key of a member. -/
structure MemberStart where
  role : MemberKind
  isStatic : Bool
  isAsync : Bool
  isGenerator : Bool

/-- Whether a word can only be the key of a member, given the token after it. -/
def endsKey (following : Token) : Bool :=
  match following.kind with
  | .mark text => ["(", "=", ";", "\x7d", ":", ","].contains text
  | .finish => true
  | _ => false

/-- Take a word that says what the key after it means, unless it is the key. -/
def acceptModifier (text : String) (staysOnLine takesStar : Bool) : Reader Bool := do
  if ← isWord text then
    let following ← nextToken
    let starts := startsKey following.kind || (takesStar && following.kind = .mark "*")
    if starts && !(staysOnLine && following.afterLineEnd) then
      advance
      pure true
    else
      pure false
  else
    pure false

/-- Take the words and the star before a key. -/
def memberStart (isStatic : Bool) : Reader MemberStart := do
  let isAsync ← acceptModifier "async" true true
  if ← acceptMark "*" then
    pure ⟨.method, isStatic, isAsync, true⟩
  else if isAsync then
    pure ⟨.method, isStatic, true, false⟩
  else if ← acceptModifier "get" false false then
    pure ⟨.getter, isStatic, false, false⟩
  else if ← acceptModifier "set" false false then
    pure ⟨.setter, isStatic, false, false⟩
  else
    pure ⟨.method, isStatic, false, false⟩

/-- The name that a key spells without being computed. -/
def keyName? (key : Node) : Option String :=
  match key.kind with
  | .name text => some text
  | .string _ value => some value
  | _ => none

def methodKeyFits (begun : MemberStart) (key : Node) : Bool :=
  let isPlain := begun.role = .method && !begun.isAsync && !begun.isGenerator
  match key.kind with
  | .privateName name => name ≠ "constructor"
  | _ =>
    if begun.isStatic then keyName? key ≠ some "prototype"
    else isPlain || keyName? key ≠ some "constructor"

def fieldKeyFits (isStatic : Bool) (key : Node) : Bool :=
  match key.kind with
  | .privateName name => name ≠ "constructor"
  | _ => keyName? key ≠ some "constructor" && !(isStatic && keyName? key = some "prototype")

def memberFrom (recur : Recur) (start : Nat) (begun : MemberStart) : Reader Node := do
  let key ← propertyKey recur true
  if ← isMark "(" then
    require (methodKeyFits begun key)
    let parts ← methodParts recur
    require (parametersFit begun.role (parts.headD .absent))
    let isConstructor := !begun.isStatic && keyName? key = some "constructor"
    let kind : Kind :=
      if isConstructor then .classConstructor
      else .classMethod begun.role begun.isStatic begun.isAsync begun.isGenerator
    node kind start (key :: parts)
  else do
    require (begun.role = .method && !begun.isAsync && !begun.isGenerator)
    require (fieldKeyFits begun.isStatic key)
    let value ←
      if ← acceptMark "=" then recur (.assignment true) else pure Node.absent
    endStatement
    node (.classField begun.isStatic) start [key, value]

def classMember (recur : Recur) : Reader Node := do
  let start ← position
  if ← acceptMark ";" then
    node .emptyMember start []
  else if (← isWord "static") && !endsKey (← nextToken) then
    advance
    if ← isMark "\x7b" then
      let body ← blockOf recur
      node .staticBlock start [body]
    else
      memberFrom recur start (← memberStart true)
  else
    memberFrom recur start (← memberStart false)

/-- Read a class; the name may be left out where `needsName` does not hold. -/
def classFrom (recur : Recur) (needsName : Bool) : Reader Node := do
  let start ← position
  expectWord "class"
  let isNameless := !needsName && ((← isWord "extends") || (← isMark "\x7b"))
  let name ← if isNameless then pure Node.absent else nameNode boundName
  let superclass ←
    if ← acceptWord "extends" then recur .leftHandSide else pure Node.absent
  let bodyStart ← position
  expectMark "\x7b"
  let members ← manyUntil (isMark "\x7d") (classMember recur)
  expectMark "\x7d"
  let body ← node .classBody bodyStart members
  node .classLike start [name, body, superclass]

end ScriptBundle.Script.Reader
