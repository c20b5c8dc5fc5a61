import ScriptBundle.Script.Grammar.Basic

/-!
# Targets

What stands before an assignment sign, or in the parentheses before an arrow,
is read as an expression first; only the sign tells that it names what is
given a value.  It is then turned into a target.  A target of an assignment
may be a variable, a property, or a pattern of targets; parentheses may stand
around a single variable or property.  A binding names variables only.
-/

namespace ScriptBundle.Script

/-- Whether a chain of properties and calls skips ahead somewhere. -/
def hasOptionalLink : Node → Bool
  | .mk (.member isOptional) _ _ (object :: _) => isOptional || hasOptionalLink object
  | .mk (.index isOptional) _ _ (object :: _) => isOptional || hasOptionalLink object
  | .mk (.call isOptional) _ _ (callee :: _) => isOptional || hasOptionalLink callee
  | .mk .taggedTemplate _ _ (tag :: _) => hasOptionalLink tag
  | _ => false

/-- Whether a node is a variable or a property that can be given a value. -/
def isSimpleTarget (node : Node) : Bool :=
  match node.kind with
  | .identifier name => !Reader.fixedNames.contains name
  | .member _ => !hasOptionalLink node
  | .index _ => !hasOptionalLink node
  | _ => false

/-- Whether a node is such a target, with or without parentheses around it. -/
def isParenthesizedTarget : Node → Bool
  | .mk .parenthesized _ _ [inner] => isParenthesizedTarget inner
  | node => isSimpleTarget node

/-- Whether a node can be given a value as it is. -/
def isPlainTarget (binding : Bool) (node : Node) : Bool :=
  if binding then
    match node.kind with
    | .identifier name => !Reader.fixedNames.contains name
    | _ => false
  else
    isParenthesizedTarget node

mutual

/-- Turn an expression into a target. -/
def asTarget? (binding : Bool) : Node → Option Node
  | .mk (.array commaAtEnd) start finish items => do
    let targets ← asItemTargets? binding commaAtEnd items
    pure (.mk .arrayTarget start finish targets)
  | .mk (.object commaAtEnd) start finish properties => do
    let targets ← asPropertyTargets? binding commaAtEnd properties
    pure (.mk .objectTarget start finish targets)
  | .mk (.assignment operator) start finish [target, value] =>
    if operator = "=" then do
      let target ← asTarget? binding target
      pure (.mk .defaultTarget start finish [target, value])
    else
      none
  | .mk .arrayTarget start finish items => do
    let targets ← asItemTargets? binding false items
    pure (.mk .arrayTarget start finish targets)
  | .mk .objectTarget start finish properties => do
    let targets ← asPropertyTargets? binding false properties
    pure (.mk .objectTarget start finish targets)
  | .mk .defaultTarget start finish [target, value] => do
    let target ← asTarget? binding target
    pure (.mk .defaultTarget start finish [target, value])
  | node => if isPlainTarget binding node then some node else none

/-- Turn the items of a list into targets.  The rest of a list comes last. -/
def asItemTargets? (binding commaAtEnd : Bool) : List Node → Option (List Node)
  | [] => some []
  | .mk .absent start finish parts :: rest => do
    let others ← asItemTargets? binding commaAtEnd rest
    pure (.mk .absent start finish parts :: others)
  | .mk .spread start finish [inner] :: rest =>
    if rest.isEmpty && !commaAtEnd then do
      let target ← asTarget? binding inner
      if target.kind = .defaultTarget then none
      else pure [.mk .restTarget start finish [target]]
    else
      none
  | .mk .restTarget start finish [inner] :: rest =>
    if rest.isEmpty then do
      let target ← asTarget? binding inner
      pure [.mk .restTarget start finish [target]]
    else
      none
  | first :: rest => do
    let target ← asTarget? binding first
    let others ← asItemTargets? binding commaAtEnd rest
    pure (target :: others)

/-- Turn the properties of an object into targets.  The rest of an object
comes last and is not a pattern. -/
def asPropertyTargets? (binding commaAtEnd : Bool) : List Node → Option (List Node)
  | [] => some []
  | .mk .property start finish [key, value] :: rest => do
    let target ← asTarget? binding value
    let others ← asPropertyTargets? binding commaAtEnd rest
    pure (.mk .propertyTarget start finish [key, target] :: others)
  | .mk .propertyTarget start finish [key, value] :: rest => do
    let target ← asTarget? binding value
    let others ← asPropertyTargets? binding commaAtEnd rest
    pure (.mk .propertyTarget start finish [key, target] :: others)
  | .mk .shorthand start finish [name] :: rest => do
    let others ← asPropertyTargets? binding commaAtEnd rest
    if isPlainTarget true name then
      pure (.mk .shorthandTarget start finish [name, .absent] :: others)
    else
      none
  | .mk .shorthandDefault start finish [name, value] :: rest => do
    let others ← asPropertyTargets? binding commaAtEnd rest
    if isPlainTarget true name then
      pure (.mk .shorthandTarget start finish [name, value] :: others)
    else
      none
  | .mk .shorthandTarget start finish parts :: rest => do
    let others ← asPropertyTargets? binding commaAtEnd rest
    pure (.mk .shorthandTarget start finish parts :: others)
  | .mk .spread start finish [inner] :: rest =>
    if rest.isEmpty && !commaAtEnd && isPlainTarget binding inner then
      some [.mk .restTarget start finish [inner]]
    else
      none
  | .mk .restTarget start finish [inner] :: rest =>
    if rest.isEmpty && isPlainTarget binding inner then
      some [.mk .restTarget start finish [inner]]
    else
      none
  | _ :: _ => none

end

/-- Turn what stands in the parentheses before an arrow into parameters. -/
def asParameters? (commaAtEnd : Bool) (items : List Node) : Option (List Node) :=
  if items.any Node.isAbsent then none else asItemTargets? true commaAtEnd items

end ScriptBundle.Script
