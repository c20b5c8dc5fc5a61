import ScriptBundle.Script.Lexer
import ScriptBundle.Script.Tree

/-!
# Reading grammar

A reader of grammar looks at one token at a time.  It takes tokens from the
text and files their comments on the way; it gives none where the text does
not follow the grammar.

Productions that contain each other are not written as one recursive
definition.  Each is told how to read the goals it contains, and the goals are
tied together once, by the number of times they may still be entered.
-/

namespace ScriptBundle.Script

/-- Where a reader is: the token it looks at, the end of the token before it,
and the comments filed so far. -/
structure ReadState where
  token : Token
  lastFinish : Nat
  comments : CommentTable
deriving Repr

abbrev Reader (Part : Type) := StateT ReadState Option Part

/-- The parts of the grammar that others contain. -/
inductive Goal where
  /-- A statement, and whether declarations may stand there. -/
  | statement (declarations : Bool)
  /-- An expression with commas, and whether `in` may be an operator. -/
  | expression (allowsIn : Bool)
  /-- An expression without commas. -/
  | assignment (allowsIn : Bool)
  | unary
  /-- What stands after `new`. -/
  | constructed
  /-- What a class extends. -/
  | leftHandSide
  /-- A variable, or a pattern of variables. -/
  | binding
deriving DecidableEq, Repr

abbrev Recur := Goal → Reader Node

namespace Reader

/-- The text does not follow the grammar. -/
def refuse {Part : Type} : Reader Part :=
  fun _ => none

def require (condition : Bool) : Reader Unit :=
  if condition then pure () else refuse

def given {Part : Type} (part : Option Part) : Reader Part :=
  fun state => part.map fun part => (part, state)

def token : Reader Token := do
  pure (← get).token

/-- The token after the one at hand; the end of the text where there is none. -/
def nextToken : Reader Token := do
  let current ← token
  pure ((readToken? current.kind false current.after).getD
    { current with kind := .finish, here := current.after })

/-- Where the token at hand starts. -/
def position : Reader Nat := do
  pure (← token).start

/-- File the comments before the token at hand and go on at a cursor, after a
token of the given kind. -/
def continueAt (kind : TokenKind) (cursor : Cursor) : Reader Unit := fun state => do
  let comments := (state.comments.addTrailing state.lastFinish state.token.trailing).addLeading
    state.token.start state.token.leading
  let next ← readToken? kind false cursor
  pure ((), ⟨next, cursor.position, comments⟩)

/-- Take the token at hand. -/
def advance : Reader Unit := do
  let current ← token
  continueAt current.kind current.after

/-- Whether the token at hand is the given mark. -/
def isMark (text : String) : Reader Bool := do
  pure ((← token).kind = .mark text)

/-- Whether the token at hand is the given word, written without escapes. -/
def isWord (text : String) : Reader Bool := do
  pure ((← token).kind = .name text false)

def acceptMark (text : String) : Reader Bool := do
  if ← isMark text then
    advance
    pure true
  else
    pure false

def acceptWord (text : String) : Reader Bool := do
  if ← isWord text then
    advance
    pure true
  else
    pure false

def expectMark (text : String) : Reader Unit := do
  require (← acceptMark text)

def expectWord (text : String) : Reader Unit := do
  require (← acceptWord text)

def manyUntilWithin {Part : Type} (stop : Reader Bool) (item : Reader Part) :
    Nat → Reader (List Part)
  | 0 => refuse
  | fuel + 1 => do
    if ← stop then
      pure []
    else do
      let first ← item
      let rest ← manyUntilWithin stop item fuel
      pure (first :: rest)

/-- Read items until it is time to stop.  There are not more of them than
characters left. -/
def manyUntil {Part : Type} (stop : Reader Bool) (item : Reader Part) : Reader (List Part) := do
  manyUntilWithin stop item ((← token).here.rest.length + 2)

/-- The node of a kind from a place to the end of the last token. -/
def node (kind : Kind) (start : Nat) (parts : List Node) : Reader Node := do
  pure (.mk kind start (← get).lastFinish parts)

/-- Take the end of a statement: a semicolon, or a place where one is
understood. -/
def endStatement : Reader Unit := do
  if !(← acceptMark ";") then
    let current ← token
    require (current.afterLineEnd || current.kind = .mark "\x7d" || current.kind = .finish)

/-- The words that cannot be the name of a variable. -/
def reservedWords : List String :=
  constructWords ++ ["null", "true", "false", "enum", "implements", "interface", "package",
    "private", "protected", "public", "static"]

/-- The names of variables that cannot be given a value. -/
def fixedNames : List String :=
  ["eval", "arguments"]

def anyName : Reader String := do
  match (← token).kind with
  | .name value _ =>
    advance
    pure value
  | _ => refuse

def variableName : Reader String := do
  let name ← anyName
  require (!reservedWords.contains name)
  pure name

/-- Read the name of a variable that is given a value. -/
def boundName : Reader String := do
  let name ← variableName
  require (!fixedNames.contains name)
  pure name

def nameNode (read : Reader String) : Reader Node := do
  let start ← position
  let name ← read
  node (.name name) start []

def stringNode : Reader Node := do
  let start ← position
  match (← token).kind with
  | .string text value =>
    advance
    node (.string (some text) value) start []
  | _ => refuse

def startsKey (kind : TokenKind) : Bool :=
  match kind with
  | .name _ _ => true
  | .string _ _ => true
  | .number _ => true
  | .bigInteger _ => true
  | .privateName _ => true
  | .mark text => text = "["
  | _ => false

/-- Read the key of a property; a private name only where `allowsPrivate`
holds. -/
def propertyKey (recur : Recur) (allowsPrivate : Bool) : Reader Node := do
  let start ← position
  match (← token).kind with
  | .name value _ =>
    advance
    node (.name value) start []
  | .string text value =>
    advance
    node (.string (some text) value) start []
  | .number text =>
    advance
    node (.number text) start []
  | .bigInteger text =>
    advance
    node (.bigInteger text) start []
  | .privateName value =>
    require allowsPrivate
    advance
    node (.privateName value) start []
  | .mark "[" =>
    advance
    let key ← recur (.assignment true)
    expectMark "]"
    node .computedKey start [key]
  | _ => refuse

end Reader

end ScriptBundle.Script
