import ScriptBundle.Script.Grammar.Program

/-!
# Rules beyond the grammar

A text can follow the grammar and still be no script, because a construct
stands where it means nothing: a `return` outside a function, a jump to a
label that is not there, a second constructor.  Each rule concerns one node,
its parts and its surroundings.  The surroundings go down the tree; functions
and members of classes change them for what they contain.
-/

namespace ScriptBundle.Script

/-- What a place in a script allows. -/
structure Surroundings where
  /-- Whether `return` has a function to leave. -/
  returns : Bool
  waits : Bool
  yields : Bool
  /-- Whether the properties of `super` have a meaning. -/
  hasSuper : Bool
  /-- Whether `new.target` has a meaning. -/
  hasNewTarget : Bool
  /-- Whether the variable `arguments` may be used. -/
  hasArguments : Bool
  breaks : Bool
  continues : Bool
  /-- The labels of the statements around. -/
  labels : List String
deriving DecidableEq, Repr

namespace Surroundings

def outermost : Surroundings where
  returns := false
  waits := true
  yields := false
  hasSuper := false
  hasNewTarget := false
  hasArguments := true
  breaks := false
  continues := false
  labels := []

/-- What a function allows that waits, yields and has a `super` as given. -/
def ofFunction (waits yields hasSuper : Bool) : Surroundings where
  returns := true
  waits := waits
  yields := yields
  hasSuper := hasSuper
  hasNewTarget := true
  hasArguments := true
  breaks := false
  continues := false
  labels := []

/-- What the value of a field allows. -/
def ofField : Surroundings :=
  { ofFunction false false true with returns := false, hasArguments := false }

/-- What an arrow function allows, given its surroundings. -/
def ofArrow (around : Surroundings) (waits : Bool) : Surroundings :=
  { around with
    returns := true, waits := waits, yields := false, breaks := false, continues := false,
    labels := [] }

/-- What the body of a loop allows, given the surroundings of the loop. -/
def ofLoop (around : Surroundings) : Surroundings :=
  { around with breaks := true, continues := true }

/-- What a method allows in the part at an index, given the surroundings of
the whole: the key belongs to what is around the method. -/
def ofMethod (around : Surroundings) (index : Nat) (waits yields : Bool) : Surroundings :=
  match index with
  | 0 => around
  | 1 => ofFunction false false true
  | _ => ofFunction waits yields true

/-- What a node of a kind allows in its part at an index. -/
def inside (around : Surroundings) (kind : Kind) (index : Nat) : Surroundings :=
  match kind with
  | .function isAsync isGenerator =>
    if index = 2 then ofFunction isAsync isGenerator false else ofFunction false false false
  | .arrow isAsync => around.ofArrow (isAsync && index = 1)
  | .classMethod _ _ isAsync isGenerator => around.ofMethod index isAsync isGenerator
  | .objectMethod _ isAsync isGenerator => around.ofMethod index isAsync isGenerator
  | .classConstructor => around.ofMethod index false false
  | .classField _ => if index = 0 then around else ofField
  | .staticBlock => ofField
  | .forStatement => around.ofLoop
  | .forIn => around.ofLoop
  | .forOf _ => around.ofLoop
  | .whileStatement => around.ofLoop
  | .doStatement => around.ofLoop
  | .switchStatement => { around with breaks := true }
  | .labeled label => { around with breaks := true, labels := label :: around.labels }
  | _ => around

end Surroundings

/-- Whether two operators may not stand side by side without parentheses. -/
def operatorsClash (outer : String) (operand : Node) : Bool :=
  match operand.kind with
  | .binary inner =>
    (outer = "??" && (inner = "||" || inner = "&&")) ||
      ((outer = "||" || outer = "&&") && inner = "??")
  | _ => false

def isPrivateName (node : Node) : Bool :=
  match node.kind with
  | .privateName _ => true
  | _ => false

/-- Whether a node is an operator before its operand. -/
def isUnaryExpression (node : Node) : Bool :=
  match node.kind with
  | .unary _ => true
  | .await => true
  | _ => false

/-- Whether an operator may have the given operands.  A private name may only
be asked for by `in`, and the base of a power needs parentheses around an
operator. -/
def operandsFit (operator : String) (left right : Node) : Bool :=
  !operatorsClash operator left && !operatorsClash operator right && !isPrivateName right &&
    (operator = "in" || !isPrivateName left) && (operator ≠ "**" || !isUnaryExpression left)

/-- Whether the flags of a regular expression are known and given once. -/
def flagsFit (flags : String) : Bool :=
  flags.toList.all fun flag => "dgimsuvy".toList.contains flag && flags.toList.count flag = 1

def directive? (statement : Node) : Option String :=
  match statement.kind, (statement.part 0).kind with
  | .expressionStatement, .string text _ => text
  | _, _ => none

/-- Whether a body starts with directives, of which one asks for strictness. -/
def asksForStrictness (body : Node) : Bool :=
  match body with
  | .mk .block _ _ statements =>
    (statements.takeWhile fun statement => (directive? statement).isSome).any fun statement =>
      directive? statement = some "'use strict'" || directive? statement = some "\"use strict\""
  | _ => false

/-- Whether all parameters are plain variables. -/
def areSimple (parameters : Node) : Bool :=
  parameters.parts.all fun parameter =>
    match parameter.kind with
    | .identifier _ => true
    | _ => false

/-- Whether parameters go with a body: only plain variables go with a body
that asks for strictness. -/
def parametersAgree (parameters body : Node) : Bool :=
  areSimple parameters || !asksForStrictness body

/-- Whether a jump that repeats a loop has its loop and its label. -/
def continueFits (around : Surroundings) (label : Option String) : Bool :=
  around.continues && label.all fun label => around.labels.contains label

/-- Whether a jump out of a construct has its construct or its label. -/
def breakFits (around : Surroundings) (label : Option String) : Bool :=
  match label with
  | none => around.breaks
  | some label => around.labels.contains label

/-- Whether a property may be taken from a value. -/
def objectFits (around : Surroundings) (object : Node) : Bool :=
  object.kind ≠ .word "super" || around.hasSuper

/-- Whether a node of a kind with the given parts may stand in its place. -/
def fits (around : Surroundings) (kind : Kind) (parts : List Node) : Bool :=
  match kind, parts with
  | .yield _, _ => around.yields
  | .await, _ => around.waits
  | .returnStatement, _ => around.returns
  | .breakStatement label, _ => breakFits around label
  | .continueStatement label, _ => continueFits around label
  | .labeled label, _ => !around.labels.contains label
  | .member _, object :: _ => objectFits around object
  | .index _, object :: _ => objectFits around object
  | .metaProperty text, _ => text ≠ "new.target" || around.hasNewTarget
  | .identifier name, _ => name ≠ "arguments" || around.hasArguments
  | .shorthandDefault, _ => false
  | .binary operator, [left, right] => operandsFit operator left right
  | .unary "delete", [operand] =>
    match operand.kind with
    | .identifier _ => false
    | _ => true
  | .regularExpression _ flags, _ => flagsFit flags
  | .classBody, members => (members.filter (·.kind = .classConstructor)).length ≤ 1
  | .function _ _, [_, parameters, body] => parametersAgree parameters body
  | .arrow _, [parameters, body] => parametersAgree parameters body
  | .classMethod _ _ _ _, [_, parameters, body] => parametersAgree parameters body
  | .classConstructor, [_, parameters, body] => parametersAgree parameters body
  | .objectMethod _ _ _, [_, parameters, body] => parametersAgree parameters body
  | _, _ => true

mutual

/-- Whether every node of a tree may stand in its place. -/
def followsRules (around : Surroundings) : Node → Bool
  | .mk kind _ _ parts => fits around kind parts && allFollowRules around kind 0 parts

/-- Whether every node in the parts of a node may stand in its place; the
first of the parts is the one at `index`. -/
def allFollowRules (around : Surroundings) (kind : Kind) (index : Nat) : List Node → Bool
  | [] => true
  | part :: rest =>
    followsRules (around.inside kind index) part && allFollowRules around kind (index + 1) rest

end

/-- Read a script: a text that follows the grammar and the rules beyond it. -/
def Program.read? (text : String) : Option Program :=
  (Program.ofText? text).filter fun program => followsRules .outermost program.tree

end ScriptBundle.Script
