import ScriptBundle.Script.StringLiteral

/-!
# Reading tokens

The token at a cursor, with the comments before it.  A slash is read as a
mark; whoever expects a value reads it again as a regular expression, and
whoever reads a template goes on from the brace that ends an expression in it.

A reader gives none where the text has no such token.  The comments of old
pages, `<!--` and a `-->` at the start of a line, are refused.
-/

namespace ScriptBundle.Script

def blockComment? : List Char → Option (List Char × List Char)
  | [] => none
  | '*' :: '/' :: rest => some ([], rest)
  | character :: rest => (blockComment? rest).map fun (text, after) => (character :: text, after)

def isBeforeSemicolon : List Char → Bool
  | [] => false
  | character :: rest =>
    if character = ';' then true
    else if isSpace character && !isLineEnd character then isBeforeSemicolon rest
    else false

/-- What stands between two tokens. -/
structure Gap where
  after : Cursor
  hasLineEnd : Bool
  trailing : List Comment
  leading : List Comment

def Gap.addComment (gap : Gap) (explainsNext : Bool) (comment : Comment) (after : Cursor)
    (hasLineEnd : Bool) : Gap :=
  if explainsNext then
    { gap with after := after, hasLineEnd := hasLineEnd, leading := gap.leading ++ [comment] }
  else
    { gap with after := after, hasLineEnd := hasLineEnd, trailing := gap.trailing ++ [comment] }

def readGap? (previous : TokenKind) : (fuel : Nat) → Gap → Option Gap
  | 0, _ => none
  | fuel + 1, gap =>
    match gap.after.rest with
    | '/' :: '/' :: rest =>
      let text := rest.takeWhile fun character => !isLineEnd character
      let explainsNext := gap.hasLineEnd || !previous.takesLineComment
      readGap? previous fuel (gap.addComment explainsNext ⟨false, String.ofList text⟩
        (gap.after.advance (text.length + 2)) gap.hasLineEnd)
    | '/' :: '*' :: rest =>
      match blockComment? rest with
      | none => none
      | some (text, after) =>
        let explainsNext :=
          (gap.hasLineEnd || !previous.takesBlockComment) && !isBeforeSemicolon after
        readGap? previous fuel (gap.addComment explainsNext ⟨true, String.ofList text⟩
          (gap.after.advance (text.length + 4)) (gap.hasLineEnd || text.any isLineEnd))
    | '<' :: '!' :: '-' :: '-' :: _ => none
    | '-' :: '-' :: '>' :: _ => if gap.hasLineEnd then none else some gap
    | character :: _ =>
      if isLineEnd character then
        readGap? previous fuel { gap with after := gap.after.advance 1, hasLineEnd := true }
      else if isSpace character then
        readGap? previous fuel { gap with after := gap.after.advance 1 }
      else
        some gap
    | [] => some gap

/-- Read the characters of a name, each with whether it was escaped. -/
def readNameCharacters? : (fuel : Nat) → (isFirst : Bool) → List Char →
    Option (List (Char × Bool) × List Char)
  | 0, _, _ => none
  | _, _, [] => some ([], [])
  | fuel + 1, isFirst, '\\' :: 'u' :: rest => do
    let (code, rest) ← unicodeCode? rest
    let character := Char.ofNat code
    if if isFirst then isNameStart character else isNamePart character then
      let (others, after) ← readNameCharacters? fuel false rest
      pure ((character, true) :: others, after)
    else
      none
  | _, _, '\\' :: _ => none
  | fuel + 1, isFirst, character :: rest =>
    if if isFirst then isNameStart character else isNamePart character then do
      let (others, after) ← readNameCharacters? fuel false rest
      pure ((character, false) :: others, after)
    else
      some ([], character :: rest)

/-- Read a name: its characters, whether one was escaped, and what follows. -/
def readName? (text : List Char) : Option (String × Bool × List Char) := do
  let (characters, after) ← readNameCharacters? (text.length + 1) true text
  if characters = [] then
    none
  else
    pure (String.ofList (characters.map Prod.fst), characters.any Prod.snd, after)

/-- Whether underscores in digits stand alone and between two digits. -/
def separatorsInside : List Char → Bool
  | [] => true
  | ['_'] => false
  | '_' :: '_' :: _ => false
  | _ :: rest => separatorsInside rest

/-- Digits of a kind with separators between them, and what follows. -/
def digitRun (isDigit : Char → Bool) (text : List Char) : List Char × List Char :=
  (text.takeWhile fun character => isDigit character || character = '_',
    text.dropWhile fun character => isDigit character || character = '_')

def isRun (digits : List Char) : Bool :=
  digits ≠ [] && digits.head? ≠ some '_' && separatorsInside digits

def isDigitBelow (base : Nat) (character : Char) : Bool :=
  (Digits.hex? character).any fun value => value < base

/-- A number that was read: whether it is a big integer, and what follows. -/
structure NumberEnd where
  isBig : Bool
  after : List Char

/-- Nothing of a name may follow a number directly. -/
def NumberEnd.checked? (ending : NumberEnd) : Option NumberEnd :=
  match ending.after with
  | [] => some ending
  | character :: _ =>
    if isNameStart character || Digits.isDecimal character || character = '\\' then none
    else some ending

def readBigMark (after : List Char) : NumberEnd :=
  match after with
  | 'n' :: rest => ⟨true, rest⟩
  | rest => ⟨false, rest⟩

def readExponent? : List Char → Option (List Char)
  | character :: rest =>
    if character = 'e' || character = 'E' then
      let unsigned :=
        match rest with
        | '+' :: others => others
        | '-' :: others => others
        | others => others
      let (digits, after) := digitRun Digits.isDecimal unsigned
      if isRun digits then some after else none
    else
      some (character :: rest)
  | [] => some []

def readFraction? (needsDigits : Bool) (text : List Char) : Option NumberEnd := do
  let (digits, after) := digitRun Digits.isDecimal text
  if (digits = [] && !needsDigits) || isRun digits then
    let after ← readExponent? after
    NumberEnd.checked? ⟨false, after⟩
  else
    none

def readBased? (base : Nat) (text : List Char) : Option NumberEnd :=
  let (digits, after) := digitRun (isDigitBelow base) text
  if isRun digits then (readBigMark after).checked? else none

/-- Read a decimal number at its first digit.  A leading zero stands alone. -/
def readDecimal? (text : List Char) : Option NumberEnd :=
  let (digits, after) := digitRun Digits.isDecimal text
  if !isRun digits || (digits.head? = some '0' && digits.length > 1) then
    none
  else
    match after with
    | '.' :: rest => readFraction? false rest
    | 'n' :: rest => NumberEnd.checked? ⟨true, rest⟩
    | _ => do
      let after ← readExponent? after
      NumberEnd.checked? ⟨false, after⟩

def readNumber? : List Char → Option NumberEnd
  | '0' :: 'x' :: rest => readBased? 16 rest
  | '0' :: 'X' :: rest => readBased? 16 rest
  | '0' :: 'o' :: rest => readBased? 8 rest
  | '0' :: 'O' :: rest => readBased? 8 rest
  | '0' :: 'b' :: rest => readBased? 2 rest
  | '0' :: 'B' :: rest => readBased? 2 rest
  | '.' :: rest => readFraction? true rest
  | text => readDecimal? text

def withoutSeparators (text : List Char) : String :=
  String.ofList (text.filter (· ≠ '_'))

/-- The marks of the language, longer ones before those they start with. -/
def marks : List String :=
  [">>>=", "...", "===", "!==", "**=", "<<=", ">>=", ">>>", "&&=", "||=", "??=", "=>", "==", "!=",
    "<=", ">=", "&&", "||", "??", "?.", "++", "--", "+=", "-=", "*=", "/=", "%=", "&=", "|=", "^=",
    "<<", ">>", "**", "\x7b", "\x7d", "(", ")", "[", "]", ";", ",", "<", ">", "+", "-", "*", "/",
    "%", "&", "|", "^", "!", "~", "?", ":", "=", "."]

/-- The mark at the start of a text.  A question mark and a point do not belong
together where the point starts a number. -/
def readMark? (text : List Char) : Option String :=
  let found := marks.find? fun mark => mark.toList.isPrefixOf text
  if found = some "?." && ((text.drop 2).head?).any Digits.isDecimal then some "?" else found

/-- A part of a template: its text with line ends as line feeds, whether an
escape in it has no meaning, and whether the template ends with it. -/
structure TemplatePart where
  text : List Char
  isBroken : Bool
  isLast : Bool
  after : List Char

def TemplatePart.prepend (part : TemplatePart) (characters : List Char) (isBroken : Bool) :
    TemplatePart :=
  { part with text := characters ++ part.text, isBroken := isBroken || part.isBroken }

/-- Read a part of a template up to its next expression or its end. -/
def readTemplatePart? : List Char → Option TemplatePart
  | [] => none
  | '\x60' :: rest => some ⟨[], false, true, rest⟩
  | '$' :: '\x7b' :: rest => some ⟨[], false, false, rest⟩
  | '\r' :: '\n' :: rest => (readTemplatePart? rest).map (·.prepend ['\n'] false)
  | '\r' :: rest => (readTemplatePart? rest).map (·.prepend ['\n'] false)
  | '\\' :: '\r' :: '\n' :: rest => (readTemplatePart? rest).map (·.prepend ['\\', '\n'] false)
  | '\\' :: '\r' :: rest => (readTemplatePart? rest).map (·.prepend ['\\', '\n'] false)
  | '\\' :: character :: rest =>
    let isBroken := (readEscape? (character :: rest)).isNone
    (readTemplatePart? rest).map (·.prepend ['\\', character] isBroken)
  | character :: rest => (readTemplatePart? rest).map (·.prepend [character] false)

/-- Read the body of a regular expression up to the slash that ends it. -/
def readRegularBody? (inClass : Bool) : List Char → Option (List Char × List Char)
  | [] => none
  | '\\' :: character :: rest =>
    if isLineEnd character then none
    else (readRegularBody? inClass rest).map fun (body, after) =>
      ('\\' :: character :: body, after)
  | character :: rest =>
    if isLineEnd character then none
    else if character = '/' && !inClass then some ([], rest)
    else
      let nowInClass :=
        if character = '[' then true else if character = ']' then false else inClass
      (readRegularBody? nowInClass rest).map fun (body, after) => (character :: body, after)

/-- Read a regular expression at its slash: its body, its flags and what
follows. -/
def readRegular? : List Char → Option (String × String × List Char)
  | '/' :: rest => do
    let (body, after) ← readRegularBody? false rest
    let flags := after.takeWhile isNamePart
    let after := after.dropWhile isNamePart
    if body = [] || after.head? = some '\\' then none
    else pure (String.ofList body, String.ofList flags, after)
  | _ => none

/-- Read the token at a cursor: its kind and how many characters it has. -/
def readKind? (text : List Char) : Option (TokenKind × Nat) :=
  let sizeTo (after : List Char) : Nat := text.length - after.length
  match text with
  | [] => some (.finish, 0)
  | '#' :: rest => do
    let (name, _, after) ← readName? rest
    pure (.privateName name, sizeTo after)
  | '\x60' :: _ => some (.mark "\x60", 1)
  | '"' :: _ | '\'' :: _ => do
    let (value, after) ← readString? text
    let size := sizeTo after
    pure (.string (String.ofList (text.take size)) value, size)
  | character :: rest =>
    if Digits.isDecimal character || (character = '.' && (rest.head?).any Digits.isDecimal) then do
      let ending ← readNumber? text
      let size := sizeTo ending.after
      let written := withoutSeparators (text.take size)
      pure (if ending.isBig then .bigInteger written else .number written, size)
    else if isNameStart character || character = '\\' then do
      let (name, escaped, after) ← readName? text
      pure (.name name escaped, sizeTo after)
    else do
      let mark ← readMark? text
      pure (.mark mark, mark.length)

/-- Read the token after one of kind `previous`, with the gap before it. -/
def readToken? (previous : TokenKind) (hasLineEnd : Bool) (cursor : Cursor) : Option Token := do
  let gap ← readGap? previous (cursor.rest.length + 1) ⟨cursor, hasLineEnd, [], []⟩
  let (kind, size) ← readKind? gap.after.rest
  pure ⟨kind, gap.after, gap.after.advance size, gap.hasLineEnd, gap.trailing, gap.leading⟩

end ScriptBundle.Script
