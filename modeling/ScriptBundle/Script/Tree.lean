/-!
# Script trees

A tree keeps a script as it was written: parentheses are nodes of their own,
and a literal keeps its spelling.  All nodes have one form, a kind with the
parts that the kind calls for, so that whatever concerns every node of a
script is said once.  A part that a kind allows to be missing is then the
node `absent`.

The parts of a node stand in the order in which they are visited.  This is
the order of the text with two exceptions: the condition of a `do` loop comes
before its body, and the members of a class come before what it extends.

A script names another module by calling the plain variable `require` with one
argument, a string between quotes.  Whatever else a call of that name holds,
it names no module.

Specifiers are visited in the order of the parts of a tree, and the specifier
of a call before anything else in the call.  `replaceSpecifiers` puts a new
text in the place of each, which is written without the old spelling;
`specifiers` only lists them.
-/

namespace ScriptBundle.Script

/-- What a member of an object or a class does. -/
inductive MemberKind where
  | method
  | getter
  | setter
deriving DecidableEq, Repr

/-- The kind of a node.  The parts that go with it are given in brackets. -/
inductive Kind where
  /-- A part that is missing. -/
  | absent
  /-- A whole script [statements and declarations]. -/
  | program (hashbang : Option String)
  -- Statements
  | expressionStatement
  | block
  | emptyStatement
  | debuggerStatement
  /-- A choice [condition, statement, other statement or absent]. -/
  | ifStatement
  /-- A counting loop [start, condition, update, body]; all but the body may be absent. -/
  | forStatement
  /-- A loop over keys [target, object, body]. -/
  | forIn
  /-- A loop over items [target, items, body]. -/
  | forOf (awaits : Bool)
  /-- A loop [condition, body]. -/
  | whileStatement
  /-- A loop with its condition at the end [condition, body]. -/
  | doStatement
  | returnStatement
  | throwStatement
  | breakStatement (label : Option String)
  | continueStatement (label : Option String)
  /-- A statement with a label [statement]. -/
  | labeled (label : String)
  /-- A choice among cases [value, cases]. -/
  | switchStatement
  /-- A case [value or absent, statements]. -/
  | switchCase
  /-- A guarded block [block, catch clause or absent, final block or absent]. -/
  | tryStatement
  /-- A catch clause [binding or absent, block]. -/
  | catchClause
  /-- Declared variables [declarators]. -/
  | variables (keyword : String)
  /-- One declared variable [binding, value or absent]. -/
  | declarator
  /-- A function as a statement [function]. -/
  | functionDeclaration
  /-- A class as a statement [class]. -/
  | classDeclaration
  -- Imports and exports
  /-- An import [default or absent, namespace or absent, names or absent, source]. -/
  | importDeclaration
  /-- The names of an import or an export [specifiers]. -/
  | specifiers
  /-- One name of an import or an export [name, other name or absent]. -/
  | specifier
  /-- An export of names [namespace or absent, names or absent, source or absent]. -/
  | exportNames
  /-- An export of everything [source]. -/
  | exportAll
  /-- An export of a declaration [declaration]. -/
  | exportDeclaration
  /-- A default export [expression, function or class]. -/
  | exportDefault
  -- Functions and classes
  /-- A function [name or absent, parameters, body]. -/
  | function (isAsync isGenerator : Bool)
  /-- An arrow function [parameters, body]. -/
  | arrow (isAsync : Bool)
  | parameters
  /-- A class [name or absent, body, superclass or absent]. -/
  | classLike
  | classBody
  /-- A constructor [key, parameters, body]. -/
  | classConstructor
  /-- A method of a class [key, parameters, body]. -/
  | classMethod (role : MemberKind) (isStatic isAsync isGenerator : Bool)
  /-- A field of a class [key, value or absent]. -/
  | classField (isStatic : Bool)
  | staticBlock
  | emptyMember
  -- Literals and names
  | identifier (name : String)
  /-- A name that does not stand for a variable, such as that of a property. -/
  | name (text : String)
  | privateName (name : String)
  | number (text : String)
  | bigInteger (text : String)
  /-- A string with its spelling, if it was written, and its value. -/
  | string (text : Option String) (value : String)
  | regularExpression (body flags : String)
  /-- A word that stands for a value: `this`, `null`, `true`, `false`, `super` or `import`. -/
  | word (text : String)
  /-- A template [expressions], with the texts around them. -/
  | template (texts : List String)
  /-- A pair of words with a dot between them: `import.meta` or `new.target`. -/
  | metaProperty (text : String)
  -- Expressions
  | parenthesized
  /-- A list of items, some of which may be absent; a comma may come after them. -/
  | array (commaAtEnd : Bool)
  /-- An object [properties]; a comma may come after them. -/
  | object (commaAtEnd : Bool)
  /-- A property [key, value]. -/
  | property
  /-- A property whose name is its value [identifier]. -/
  | shorthand
  /-- A name with a value, which only a target can have [identifier, value]. -/
  | shorthandDefault
  /-- A method of an object [key, parameters, body]. -/
  | objectMethod (role : MemberKind) (isAsync isGenerator : Bool)
  /-- A key that is computed [expression]. -/
  | computedKey
  | spread
  | unary (operator : String)
  /-- An increment or decrement [target]. -/
  | update (operator : String) (before : Bool)
  | binary (operator : String)
  /-- An assignment [target, value]. -/
  | assignment (operator : String)
  /-- A choice [condition, value, other value]. -/
  | conditional
  | sequence
  /-- A call [callee, arguments]. -/
  | call (isOptional : Bool)
  /-- A construction [callee, arguments], with or without a list of arguments. -/
  | construct (hasArguments : Bool)
  /-- A property given by name [object, name]. -/
  | member (isOptional : Bool)
  /-- A property given by a value [object, value]. -/
  | index (isOptional : Bool)
  /-- A template with a function that reads it [function, template]. -/
  | taggedTemplate
  | yield (delegates : Bool)
  | await
  -- Binding and assignment targets
  | arrayTarget
  /-- An object target [properties]. -/
  | objectTarget
  /-- A target of a property [key, target]. -/
  | propertyTarget
  /-- A target that has the name of its property [identifier, default or absent]. -/
  | shorthandTarget
  /-- A target with a default [target, default]. -/
  | defaultTarget
  | restTarget
deriving DecidableEq, Repr

/-- A node of a script with its place in the text: where its first character
stands, and where the first character after it. -/
inductive Node where
  | mk (kind : Kind) (start finish : Nat) (parts : List Node)
deriving Repr

namespace Node

def kind : Node → Kind
  | .mk kind _ _ _ => kind

def start : Node → Nat
  | .mk _ start _ _ => start

def finish : Node → Nat
  | .mk _ _ finish _ => finish

def parts : Node → List Node
  | .mk _ _ _ parts => parts

/-- The node that stands for a missing part. -/
def absent : Node :=
  .mk .absent 0 0 []

instance : Inhabited Node :=
  ⟨absent⟩

/-- Whether a part is missing. -/
def isAbsent (node : Node) : Bool :=
  node.kind = .absent

def part (node : Node) (index : Nat) : Node :=
  node.parts.getD index absent

end Node

/-- The name of the function that loads a module. -/
def requireName : String :=
  "require"

namespace Node

/-- The specifier of a call with the given parts, if the call names a
module. -/
def specifierOf? : List Node → Option String
  | [.mk (.identifier name) _ _ _, .mk (.string _ value) _ _ _] =>
    if name = requireName then some value else none
  | _ => none

def specifier? (kind : Kind) (parts : List Node) : Option String :=
  if kind = .call false then specifierOf? parts else none

/-- The parts of a call that names a module, with another text as its
specifier. -/
def withSpecifier (id : String) : List Node → List Node
  | [callee, .mk _ start finish parts] => [callee, .mk (.string none id) start finish parts]
  | parts => parts

mutual

/-- Put a text in the place of every specifier of a tree. -/
def replaceSpecifiers {Effect : Type → Type} [Monad Effect] (replace : String → Effect String) :
    Node → Effect Node
  | .mk kind start finish parts =>
    match specifier? kind parts with
    | some specifier => do
      let id ← replace specifier
      pure (.mk kind start finish (withSpecifier id parts))
    | none => do
      let replaced ← replaceAllSpecifiers replace parts
      pure (.mk kind start finish replaced)

/-- Put a text in the place of every specifier of several trees. -/
def replaceAllSpecifiers {Effect : Type → Type} [Monad Effect]
    (replace : String → Effect String) : List Node → Effect (List Node)
  | [] => pure []
  | first :: rest => do
    let replaced ← replaceSpecifiers replace first
    let others ← replaceAllSpecifiers replace rest
    pure (replaced :: others)

end

mutual

/-- The specifiers of a tree, in the order in which they are visited. -/
def specifiers : Node → List String
  | .mk kind _ _ parts =>
    match specifier? kind parts with
    | some specifier => [specifier]
    | none => allSpecifiers parts

/-- The specifiers of several trees. -/
def allSpecifiers : List Node → List String
  | [] => []
  | first :: rest => specifiers first ++ allSpecifiers rest

end

end Node

end ScriptBundle.Script
