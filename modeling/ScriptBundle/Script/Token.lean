import ScriptBundle.Unicode.Property
import ScriptBundle.Text

/-!
# Tokens and comments

The grammar of scripts is written in a few classes of characters, which make
up tokens.  A token is a name, a literal, or a mark.  The comments between two
tokens belong to one of them.  A comment that starts on the line of the token
before it explains that token where the token can be explained at all; any
other comment explains the token after it.

The comments of a script are kept apart from its tree, by the place they
belong to: the start of the token they explain from before, or the end of the
token they explain from behind.
-/

namespace ScriptBundle.Script

def isLineEnd (character : Char) : Bool :=
  character = '\n' || character = '\r' || character = '\u2028' || character = '\u2029'

/-- A character that separates tokens. -/
def isSpace (character : Char) : Bool :=
  Text.isBlank character || character = '\uFEFF'

def isNameStart (character : Char) : Bool :=
  if character.toNat < 0x80 then
    character.isAlpha || character = '$' || character = '_'
  else
    Unicode.identifierStart.contains character

def isNamePart (character : Char) : Bool :=
  if character.toNat < 0x80 then
    character.isAlphanum || character = '$' || character = '_'
  else
    Unicode.identifierContinue.contains character || character = '\u200c' || character = '\u200d'

/-- The characters that are left, and where the first of them stands. -/
structure Cursor where
  rest : List Char
  position : Nat
deriving Repr, Inhabited

/-- The cursor after some characters. -/
def Cursor.advance (cursor : Cursor) (count : Nat) : Cursor :=
  ⟨cursor.rest.drop count, cursor.position + count⟩

/-- A comment without the marks around it. -/
structure Comment where
  isBlock : Bool
  text : String
deriving DecidableEq, Repr

/-- What a token is. -/
inductive TokenKind where
  /-- A name or a word, and whether it was written with an escape. -/
  | name (value : String) (escaped : Bool)
  | privateName (value : String)
  | number (text : String)
  | bigInteger (text : String)
  | string (text : String) (value : String)
  /-- A part of a template between its expressions; `isLast` tells whether the
  template ends with it. -/
  | templatePart (isLast : Bool)
  | regularExpression
  | mark (text : String)
  | finish
deriving DecidableEq, Repr

def constructWords : List String :=
  ["await", "break", "case", "catch", "class", "const", "continue", "debugger", "default",
    "delete", "do", "else", "export", "extends", "finally", "for", "function", "if", "import",
    "in", "instanceof", "let", "new", "return", "super", "switch", "this", "throw", "try",
    "typeof", "var", "void", "while", "with", "yield"]

/-- Whether a block comment on the same line explains a token of this kind. -/
def TokenKind.takesBlockComment : TokenKind → Bool
  | .name value escaped => escaped || !constructWords.contains value
  | .number _ => true
  | .bigInteger _ => true
  | .string _ _ => true
  | .regularExpression => true
  | .templatePart isLast => !isLast
  | .mark text => text = ";" || text = "\x7b" || text = "\x7d"
  | .privateName _ => false
  | .finish => false

/-- The operators with two operands that are written as marks. -/
def binaryMarks : List String :=
  ["+", "-", "*", "/", "%", "**", "<<", ">>", ">>>", "<", ">", "<=", ">=", "==", "!=", "===",
    "!==", "&&", "||", "??", "&", "|", "^"]

/-- Whether a line comment on the same line explains a token of this kind. -/
def TokenKind.takesLineComment : TokenKind → Bool
  | .mark text => !binaryMarks.contains text
  | _ => true

/-- A token with its place and the comments before it. -/
structure Token where
  kind : TokenKind
  /-- The text from the first character of the token on. -/
  here : Cursor
  /-- The text after the token. -/
  after : Cursor
  /-- Whether a line ends between the token before it and this one. -/
  afterLineEnd : Bool
  /-- The comments that explain the token before it. -/
  trailing : List Comment
  /-- The comments that explain this token. -/
  leading : List Comment
deriving Repr

def Token.start (token : Token) : Nat :=
  token.here.position

def Token.finish (token : Token) : Nat :=
  token.after.position

/-- Comments by place. -/
structure CommentTable where
  leading : List (Nat × List Comment)
  trailing : List (Nat × List Comment)
deriving DecidableEq, Repr

namespace CommentTable

def empty : CommentTable :=
  ⟨[], []⟩

def addLeading (table : CommentTable) (place : Nat) (comments : List Comment) : CommentTable :=
  if comments = [] then table else { table with leading := (place, comments) :: table.leading }

def addTrailing (table : CommentTable) (place : Nat) (comments : List Comment) : CommentTable :=
  if comments = [] then table else { table with trailing := (place, comments) :: table.trailing }

def commentsAt (side : List (Nat × List Comment)) (place : Nat) : List Comment :=
  ((side.find? fun entry => entry.1 = place).map Prod.snd).getD []

def without (side : List (Nat × List Comment)) (place : Nat) : List (Nat × List Comment) :=
  side.filter fun entry => entry.1 ≠ place

/-- Whether there are comments before the token that starts at a place. -/
def hasLeading (table : CommentTable) (place : Nat) : Bool :=
  commentsAt table.leading place ≠ []

/-- Whether a line ends in the comments before the token that starts at a
place. -/
def hasLineEndBefore (table : CommentTable) (place : Nat) : Bool :=
  (commentsAt table.leading place).any fun comment =>
    !comment.isBlock || comment.text.toList.any isLineEnd

end CommentTable

end ScriptBundle.Script
