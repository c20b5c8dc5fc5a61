import ScriptBundle.Script.StringLiteral
import ScriptBundle.Script.Grammar.Program

/-!
# Printed scripts

A tree is laid out as a list of pieces: texts, ends of lines, changes of the
indentation, and the places where comments may be written.  What a node looks
like is said for one node at a time, given its parts as they are laid out
already.

Every node asks for the comments before its first token.  Values, targets,
statements, members of classes and items of a module ask for the comments
behind their last token as well; a block does not.

Pieces are written one after the other.  Each level of indentation is four
spaces, which are written before the first text of a line.  A comment is
written where it is first asked for and not again.
-/

namespace ScriptBundle.Script

/-- A piece of a printed script. -/
inductive Piece where
  | text (text : String)
  /-- The end of a line, unless nothing stands on it yet. -/
  | line
  | indent
  | outdent
  /-- The comments before the token that starts at a place. -/
  | leading (place : Nat)
  /-- The comments after the token that ends at a place. -/
  | trailing (place : Nat)
deriving DecidableEq, Repr

/-- A node with the pieces that it is made of. -/
structure Laid where
  node : Node
  pieces : List Piece

namespace Laid

/-- Whether a part is missing. -/
def isAbsent (laid : Laid) : Bool :=
  laid.node.isAbsent

/-- A node with the comments before it. -/
def plain (laid : Laid) : List Piece :=
  if laid.isAbsent then [] else .leading laid.node.start :: laid.pieces

/-- A value or a target with the comments around it. -/
def value (laid : Laid) : List Piece :=
  if laid.isAbsent then [] else laid.plain ++ [.trailing laid.node.finish]

/-- A statement without the comments behind it.  Declared variables get their
semicolon here, because they have none in the head of a loop. -/
def statementBody (laid : Laid) : List Piece :=
  match laid.node.kind with
  | .variables _ => laid.plain ++ [.text ";"]
  | _ => laid.plain

/-- A statement on a line of its own; a block leaves the line open. -/
def statement (laid : Laid) : List Piece :=
  if laid.node.kind = .block then
    laid.plain
  else
    laid.statementBody ++ [.trailing laid.node.finish, .line]

def loopHead (laid : Laid) : List Piece :=
  match laid.node.kind with
  | .variables _ => laid.plain
  | _ => laid.value

end Laid

/-- The comments before the last token of an item, unless the whole list ends
with that token. -/
def closingComments (finish : Nat) (item : Laid) : List Piece :=
  if item.isAbsent || item.node.finish = finish then [] else [.leading (item.node.finish - 1)]

/-- Items with a comma and the given piece between them, in a list that ends at
`finish`. -/
def separated (finish : Nat) (between : Piece) (item : Laid → List Piece) :
    List Laid → List Piece
  | [] => []
  | [last] => item last ++ closingComments finish last
  | first :: second :: rest =>
    item first ++ closingComments finish first ++ [.text ",", between] ++
      separated finish between item (second :: rest)

/-- Items with commas and spaces between them. -/
def inLine (finish : Nat) (item : Laid → List Piece) (items : List Laid) : List Piece :=
  separated finish (.text " ") item items

def commaAfterHole (items : List Laid) : List Piece :=
  if (items.getLast?).any Laid.isAbsent then [.text ", "] else []

def braced (lines : List Piece) : List Piece :=
  [.text "\x7b", .line, .indent] ++ lines ++ [.outdent, .line, .text "\x7d"]

/-- Whether comments stand before the last token of a node. -/
def hasClosingComments (comments : CommentTable) (finish : Nat) : Bool :=
  comments.hasLeading (finish - 1)

/-- The lines of a block or an object that ends at `finish`, between braces. -/
def bracedWithComments (comments : CommentTable) (finish : Nat) (isEmpty : Bool)
    (lines : List Piece) : List Piece :=
  if isEmpty && !hasClosingComments comments finish then
    [.text "\x7b\x7d"]
  else
    [.text "\x7b", .line, .indent] ++ lines ++
      [.outdent, .line, .leading (finish - 1), .text "\x7d"]

/-- Names or targets between braces, on one line. -/
def bracedInLine (item : Laid → List Piece) (items : List Laid) : List Piece :=
  if items.isEmpty then
    [.text "\x7b\x7d"]
  else
    [.text "\x7b "] ++ inLine 0 item items ++ [.text " \x7d"]

/-- Items between square brackets, each on a line of its own. -/
def listInLines (items : List Laid) : List Piece :=
  if items.isEmpty then
    [.text "[]"]
  else
    [.text "[", .line, .indent] ++ separated 0 .line Laid.value items ++ commaAfterHole items ++
      [.outdent, .line, .text "]"]

/-- Items between parentheses. -/
def parenthesized (items : List Laid) : List Piece :=
  [.text "("] ++ inLine 0 Laid.value items ++ [.text ")"]

def wordIf (isThere : Bool) (word : String) : String :=
  if isThere then word ++ " " else ""

def needsSpace (operator : String) (operand : Node) : Bool :=
  match operand.kind with
  | .unary inner => inner = operator && (operator = "+" || operator = "-")
  | .update inner true =>
    (operator = "+" && inner = "++") || (operator = "-" && inner = "--")
  | _ => false

def unaryPieces (operator : String) (operand : Laid) : List Piece :=
  let isWord := operator.toList.all Char.isAlpha
  let space := if isWord || needsSpace operator operand.node then " " else ""
  .text (operator ++ space) :: operand.value

/-- The texts of a template with its expressions between them. -/
def templatePieces : List String → List Laid → List Piece
  | [], _ => []
  | text :: _, [] => [.text text]
  | text :: texts, value :: values =>
    [.text (text ++ "$\x7b")] ++ value.value ++ [.text "\x7d"] ++ templatePieces texts values

/-- Whether a number is written with digits only, so that a point after it
would belong to it. -/
def isDigitsOnly (node : Node) : Bool :=
  match node.kind with
  | .number text => text.toList.all Char.isDigit
  | _ => false

def memberLink (isOptional : Bool) (object name : Node) : List Piece :=
  if isOptional then
    [.text "?."]
  else if hasOptionalLink object then
    [.text "."]
  else if isDigitsOnly object then
    [.text ".", .leading (name.start - 1), .text "."]
  else
    [.leading (name.start - 1), .text "."]

/-- A value after a word that may not be followed by a line end: parentheses
keep the line ends of comments from separating the two. -/
def valueAfterWord (comments : CommentTable) (value : Laid) : List Piece :=
  if value.isAbsent then []
  else if comments.hasLineEndBefore value.node.start then
    [.text "("] ++ value.value ++ [.text ")"]
  else
    .text " " :: value.value

def methodWords (role : MemberKind) (isAsync isGenerator : Bool) : String :=
  match role with
  | .method => wordIf isAsync "async" ++ if isGenerator then "*" else ""
  | .getter => "get "
  | .setter => "set "

def expressionPieces (comments : CommentTable) (kind : Kind) (finish : Nat) (parts : List Laid) :
    List Piece :=
  match kind, parts with
  | .identifier name, _ => [.text name]
  | .name text, _ => [.text text]
  | .privateName name, _ => [.text ("#" ++ name)]
  | .number text, _ => [.text text]
  | .bigInteger text, _ => [.text text]
  | .word text, _ => [.text text]
  | .metaProperty text, _ => [.text text]
  | .template texts, values => [.text "\x60"] ++ templatePieces texts values ++ [.text "\x60"]
  | .parenthesized, [inner] => [.text "("] ++ inner.value ++ [.text ")"]
  | .array _, items => listInLines items
  | .object _, properties =>
    bracedWithComments comments finish properties.isEmpty
      (separated finish .line Laid.plain properties)
  | .property, [key, value] => key.plain ++ [.text ": "] ++ value.value
  | .shorthand, [name] => name.plain
  | .computedKey, [inner] => [.text "["] ++ inner.value ++ [.text "]"]
  | .objectMethod role isAsync isGenerator, [key, parameters, body] =>
    [.text (methodWords role isAsync isGenerator)] ++ key.plain ++ [.text " "] ++
      parameters.pieces ++ [.text (if role = .setter then "" else " ")] ++ body.plain
  | .spread, [inner] => .text "..." :: inner.value
  | .unary operator, [operand] => unaryPieces operator operand
  | .update operator true, [operand] => .text operator :: operand.value
  | .update operator false, [operand] => operand.value ++ [.text operator]
  | .binary operator, [left, right] =>
    left.value ++ [.text (" " ++ operator ++ " ")] ++ right.value
  | .assignment operator, [target, value] =>
    target.plain ++ [.text (" " ++ operator ++ " ")] ++ value.value
  | .conditional, [condition, value, other] =>
    condition.value ++ [.text " ? "] ++ value.value ++ [.text " : "] ++ other.value
  | .sequence, items => inLine finish Laid.value items
  | .call isOptional, callee :: values =>
    callee.value ++ [.text (if isOptional then "?." else "")] ++ parenthesized values
  | .construct hasArguments, callee :: values =>
    [.text "new "] ++ callee.value ++ if hasArguments then parenthesized values else []
  | .member isOptional, [object, name] =>
    object.value ++ memberLink isOptional object.node name.node ++ name.plain
  | .index isOptional, [object, value] =>
    object.value ++ [.text (if isOptional then "?.[" else "[")] ++ value.value ++ [.text "]"]
  | .taggedTemplate, [tag, template] => tag.value ++ template.plain
  | .yield delegates, [value] =>
    .text (if delegates then "yield*" else "yield") :: valueAfterWord comments value
  | .await, [value] => .text "await " :: value.value
  | .arrayTarget, items =>
    [.text "["] ++ inLine 0 Laid.value items ++ commaAfterHole items ++ [.text "]"]
  | .objectTarget, properties => bracedInLine Laid.plain properties
  | .propertyTarget, [key, target] => key.plain ++ [.text ": "] ++ target.value
  | .shorthandTarget, [name, value] =>
    if value.isAbsent then name.plain else name.plain ++ [.text " = "] ++ value.value
  | .defaultTarget, [target, value] => target.value ++ [.text " = "] ++ value.value
  | .restTarget, [target] => .text "..." :: target.value
  | .string text value, _ => [.text (text.getD (quoted value))]
  | .regularExpression body flags, _ => [.text ("/" ++ body ++ "/" ++ flags)]
  | _, _ => []

/-! ## Functions and classes -/

/-- The pieces of a function, a class or a member of a class. -/
def functionPieces (kind : Kind) (parts : List Laid) : List Piece :=
  match kind, parts with
  | .function isAsync isGenerator, [name, parameters, body] =>
    let star := if isGenerator then "*" else ""
    let space := if name.isAbsent then "" else " "
    [.text (wordIf isAsync "async" ++ "function" ++ star ++ space)] ++ name.plain ++
      parameters.pieces ++ [.text " "] ++ body.plain
  | .arrow isAsync, [parameters, body] =>
    let shown :=
      if body.node.kind = .block then body.plain else .indent :: body.value ++ [.outdent]
    [.text (wordIf isAsync "async")] ++ parameters.pieces ++ [.text "=>"] ++ shown
  | .parameters, items => parenthesized items
  | .classLike, [name, body, superclass] =>
    let shownName := if name.isAbsent then [] else .text " " :: name.plain
    let shownSuperclass :=
      if superclass.isAbsent then [] else .text " extends " :: superclass.value
    [.text "class"] ++ shownName ++ shownSuperclass ++ [.text " "] ++ body.pieces
  | .classBody, members =>
    braced (members.flatMap fun member => member.plain ++ [.trailing member.node.finish, .line])
  | .classConstructor, [_, parameters, body] =>
    [.text "constructor"] ++ parameters.pieces ++ body.plain
  | .classMethod role isStatic isAsync isGenerator, [key, parameters, body] =>
    let words := wordIf isStatic "static" ++ methodWords role isAsync isGenerator
    [.leading key.node.start, .text words] ++ key.plain ++ parameters.pieces ++ [.text " "] ++
      body.plain
  | .classField isStatic, [key, value] =>
    let shownValue := if value.isAbsent then [] else .text " = " :: value.value
    [.text (wordIf isStatic "static")] ++ key.plain ++ shownValue ++ [.text ";"]
  | .staticBlock, [body] => .text "static" :: body.plain
  | .emptyMember, _ => [.text ";"]
  | _, _ => []

def wordWithLabel (word : String) (label : Option String) : List Piece :=
  [.text (word ++ ((label.map (" " ++ ·)).getD "") ++ ";")]

def afterSpace (value : Laid) : List Piece :=
  if value.isAbsent then [] else .text " " :: value.value

def clauseAfter (word : String) (clause : Laid) : List Piece :=
  if clause.isAbsent then [] else .text word :: clause.plain

def statementPieces (comments : CommentTable) (kind : Kind) (finish : Nat) (parts : List Laid) :
    List Piece :=
  match kind, parts with
  | .expressionStatement, [value] => value.value ++ [.text ";"]
  | .block, statements =>
    bracedWithComments comments finish statements.isEmpty
      (statements.flatMap fun statement => statement.statement ++ [.line])
  | .emptyStatement, _ => [.text ";"]
  | .debuggerStatement, _ => [.text "debugger;"]
  | .ifStatement, [condition, consequence, alternative] =>
    let shownAlternative :=
      if alternative.isAbsent then []
      else
        let word := if consequence.node.kind = .block then " else " else "else "
        .text word :: alternative.statement
    [.text "if ("] ++ condition.value ++ [.text ") "] ++ consequence.statement ++ shownAlternative
  | .forStatement, [first, condition, update, body] =>
    [.text "for("] ++ first.loopHead ++ [.text ";"] ++ afterSpace condition ++ [.text ";"] ++
      afterSpace update ++ [.text ")"] ++ body.statement
  | .forIn, [target, object, body] =>
    [.text "for("] ++ target.loopHead ++ [.text " in "] ++ object.value ++ [.text ")"] ++
      body.statement
  | .forOf awaits, [target, items, body] =>
    [.text ("for " ++ wordIf awaits "await" ++ "(")] ++ target.loopHead ++ [.text " of "] ++
      items.value ++ [.text ")"] ++ body.statement
  | .whileStatement, [condition, body] =>
    [.text "while("] ++ condition.value ++ [.text ")"] ++ body.statement
  | .doStatement, [condition, body] =>
    [.text "do "] ++ body.statement ++ [.text "while ("] ++ condition.value ++ [.text ")"]
  | .returnStatement, [value] =>
    [.text "return"] ++ valueAfterWord comments value ++ [.text ";"]
  | .throwStatement, [value] =>
    [.text "throw"] ++ valueAfterWord comments value ++ [.text ";"]
  | .breakStatement label, _ => wordWithLabel "break" label
  | .continueStatement label, _ => wordWithLabel "continue" label
  | .labeled label, [body] => .text (label ++ ": ") :: body.statement
  | .switchStatement, value :: cases =>
    [.text "switch("] ++ value.value ++ [.text ")"] ++
      braced (cases.flatMap fun branch => branch.plain ++ [.line])
  | .switchCase, test :: statements =>
    let word := if test.isAbsent then [.text "default"] else .text "case " :: test.value
    word ++ [.text ":", .line, .indent] ++
      (statements.flatMap fun statement => statement.statement ++ [.line]) ++ [.outdent]
  | .tryStatement, [body, handler, final] =>
    [.text "try "] ++ body.plain ++ clauseAfter " " handler ++ clauseAfter " finally" final
  | .catchClause, [target, body] =>
    let shownTarget :=
      if target.isAbsent then [] else [.text "("] ++ target.value ++ [.text ")"]
    [.text "catch "] ++ shownTarget ++ [.text " "] ++ body.plain
  | .variables keyword, declared =>
    .text (keyword ++ " ") :: inLine finish Laid.plain declared
  | .declarator, [target, value] =>
    if value.isAbsent then target.value else target.value ++ [.text " = "] ++ value.value
  | .functionDeclaration, [function] => function.plain
  | .classDeclaration, [declared] => declared.plain
  | _, _ => []

/-- Whether a default export is a declaration, which has no semicolon. -/
def isDeclared (node : Node) : Bool :=
  match node.kind with
  | .function _ _ => true
  | .classLike => true
  | _ => false

/-- The module that an export names. -/
def fromSource (source : Laid) : List Piece :=
  if source.isAbsent then [] else .text " from " :: source.plain

/-- What an import takes, with commas between the ways it takes it. -/
def importedPieces (parts : List (List Piece)) : List Piece :=
  match parts.filter (! ·.isEmpty) with
  | [] => []
  | first :: rest => first ++ (rest.flatMap fun part => .text ", " :: part) ++ [.text " from "]

/-- The names of an import, if there are any. -/
def someNames (names : Laid) : List Piece :=
  if names.node.parts.isEmpty then [] else names.pieces

def wholeModule (name : Laid) : List Piece :=
  if name.isAbsent then [] else .text "* as " :: name.plain

def moduleItem (item : Laid) : List Piece :=
  item.statement ++ [.trailing item.node.finish]

def modulePieces (kind : Kind) (finish : Nat) (parts : List Laid) : List Piece :=
  match kind, parts with
  | .program hashbang, items =>
    let line := hashbang.toList.flatMap fun text => [Piece.text ("#!" ++ text), .line]
    line ++ items.flatMap moduleItem ++ [.trailing finish]
  | .importDeclaration, [default, whole, names, source] =>
    [.text "import "] ++ importedPieces [default.plain, wholeModule whole, someNames names] ++
      source.plain ++ [.text ";"]
  | .specifiers, items => bracedInLine Laid.plain items
  | .specifier, [name, other] =>
    if other.isAbsent then name.plain else name.plain ++ [.text " as "] ++ other.plain
  | .exportNames, [whole, names, source] =>
    [.text "export "] ++ wholeModule whole ++ names.pieces ++ fromSource source ++ [.text ";"]
  | .exportAll, [source] => [.text "export *"] ++ fromSource source ++ [.text ";"]
  | .exportDeclaration, [declaration] =>
    .text "export " :: declaration.statementBody ++ [.trailing declaration.node.finish]
  | .exportDefault, [value] =>
    if isDeclared value.node then .text "export default " :: value.plain
    else [.text "export default "] ++ value.value ++ [.text ";"]
  | _, _ => []

def arrange (comments : CommentTable) (kind : Kind) (finish : Nat) (parts : List Laid) :
    List Piece :=
  expressionPieces comments kind finish parts ++ functionPieces kind parts ++
    statementPieces comments kind finish parts ++ modulePieces kind finish parts

mutual

/-- Lay out a tree. -/
def layout (comments : CommentTable) : Node → List Piece
  | .mk kind _ finish parts => arrange comments kind finish (layoutAll comments parts)

def layoutAll (comments : CommentTable) : List Node → List Laid
  | [] => []
  | part :: rest => ⟨part, layout comments part⟩ :: layoutAll comments rest

end

/-- What has been written so far. -/
structure Sheet where
  text : String
  atLineStart : Bool
  level : Nat
  /-- The comments that have not been written. -/
  comments : CommentTable

namespace Sheet

def blank (comments : CommentTable) : Sheet :=
  ⟨"", true, 0, comments⟩

/-- The spaces at the start of a line. -/
def margin (level : Nat) : String :=
  String.ofList (List.replicate (4 * level) ' ')

def write (sheet : Sheet) (text : String) : Sheet :=
  if text = "" then sheet
  else if sheet.atLineStart then
    { sheet with text := sheet.text ++ margin sheet.level ++ text, atLineStart := false }
  else
    { sheet with text := sheet.text ++ text }

/-- End the line, unless nothing stands on it. -/
def endLine (sheet : Sheet) : Sheet :=
  if sheet.atLineStart then sheet
  else { sheet with text := sheet.text ++ "\n", atLineStart := true }

/-- Write a comment.  Nothing can follow a line comment on its line; a space
follows a block comment. -/
def writeComment (sheet : Sheet) (comment : Comment) : Sheet :=
  if comment.isBlock then sheet.write ("/*" ++ comment.text ++ "*/ ")
  else (sheet.write ("//" ++ comment.text)).endLine

/-- Write the comments before the token that starts at a place. -/
def writeLeading (sheet : Sheet) (place : Nat) : Sheet :=
  let found := CommentTable.commentsAt sheet.comments.leading place
  let left := { sheet.comments with
    leading := CommentTable.without sheet.comments.leading place }
  found.foldl writeComment { sheet with comments := left }

/-- Write the comments after the token that ends at a place, with a space
before the first. -/
def writeTrailing (sheet : Sheet) (place : Nat) : Sheet :=
  let found := CommentTable.commentsAt sheet.comments.trailing place
  let left := { sheet.comments with
    trailing := CommentTable.without sheet.comments.trailing place }
  let space := if found = [] then "" else " "
  found.foldl writeComment ({ sheet with comments := left }.write space)

def writePiece (sheet : Sheet) : Piece → Sheet
  | .text text => sheet.write text
  | .line => sheet.endLine
  | .indent => { sheet with level := sheet.level + 1 }
  | .outdent => { sheet with level := sheet.level - 1 }
  | .leading place => sheet.writeLeading place
  | .trailing place => sheet.writeTrailing place

end Sheet

def Program.print (program : Program) : String :=
  let whole := Laid.mk program.tree (layout program.comments program.tree)
  (whole.plain.foldl Sheet.writePiece (.blank program.comments)).text

end ScriptBundle.Script
