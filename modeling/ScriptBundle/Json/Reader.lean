import ScriptBundle.Json.Document

/-!
# Reading JSON

A text is read into a document from left to right.  Places count bytes: a
fault at a character that was read stands after it, and a fault at a character
that was only looked at stands after the first of its bytes.

Lists and objects nest to a fixed depth.  Every function here goes down in
that depth or along the characters that are left.
-/

namespace ScriptBundle.Json

/-- The characters that are left, and the place of the first of them. -/
structure Cursor where
  rest : List Char
  position : Position
deriving Repr, Inhabited

namespace Cursor

def ofText (text : String) : Cursor :=
  ⟨text.toList, ⟨1, 0⟩⟩

/-- The character that comes next. -/
def peek? (cursor : Cursor) : Option Char :=
  cursor.rest.head?

def placeAfter (position : Position) (character : Char) (bytes : Nat) : Position :=
  if character = '\n' then ⟨position.line + 1, 0⟩
  else ⟨position.line, position.column + min bytes character.utf8Size⟩

def next (cursor : Cursor) : Cursor :=
  match cursor.rest with
  | [] => cursor
  | character :: rest => ⟨rest, placeAfter cursor.position character character.utf8Size⟩

/-- The place after the first byte of the next character. -/
def peekPlace (cursor : Cursor) : Position :=
  match cursor.rest with
  | [] => cursor.position
  | character :: _ => placeAfter cursor.position character 1

def fault (cursor : Cursor) (problem : Problem) : Fault :=
  ⟨problem, some cursor.position⟩

/-- A problem with the character that comes next. -/
def peekFault (cursor : Cursor) (problem : Problem) : Fault :=
  ⟨problem, some cursor.peekPlace⟩

/-- Whether a character may stand between the parts of a document. -/
def isSpace (character : Char) : Bool :=
  character = ' ' || character = '\n' || character = '\t' || character = '\r'

/-- Drop blank characters from the start of `rest`. -/
def skipFrom (position : Position) : List Char → Cursor
  | [] => ⟨[], position⟩
  | character :: rest =>
    if isSpace character then
      skipFrom (placeAfter position character 1) rest
    else
      ⟨character :: rest, position⟩

/-- The cursor after blank characters. -/
def skipSpace (cursor : Cursor) : Cursor :=
  skipFrom cursor.position cursor.rest

end Cursor

def readWord (word : List Char) (cursor : Cursor) : Except Fault Cursor :=
  match word with
  | [] => .ok cursor
  | expected :: others =>
    match cursor.rest with
    | [] => .error (cursor.fault .endInValue)
    | character :: _ =>
      if character = expected then
        readWord others cursor.next
      else
        .error (cursor.peekFault .expectedIdentifier)

/-- Whether a digit can still be added to a whole number of 64 bits. -/
def fitsWord (value digit : Nat) : Bool :=
  value * 10 + digit < Nat.pow 2 64

/-- Scale a number by a power of ten, the way numbers are read: one
multiplication or division where the power is a number itself, and steps of
`10 ^ 308` below that. -/
def scaleByTen (fuel : Nat) (number : Binary64) (exponent : Int) : Option Binary64 :=
  match fuel with
  | 0 => some number
  | fuel + 1 =>
    if exponent.natAbs ≤ 308 then do
      let power ← Binary64.powerOfTen? exponent.natAbs
      if exponent ≥ 0 then number.multiply? power else number.divide? power
    else if number.significand = 0 then
      some number
    else if exponent ≥ 0 then
      none
    else do
      let power ← Binary64.powerOfTen? 308
      scaleByTen fuel (← number.divide? power) (exponent + 308)

def realNumber (isNegative : Bool) (significand : Nat) (exponent : Int) (cursor : Cursor) :
    Except Fault (Number × Cursor) :=
  match (Binary64.ofQuotient? significand 1).bind (scaleByTen 8 · exponent) with
  | some magnitude => .ok (.real isNegative magnitude, cursor)
  | none => .error (cursor.fault .numberOutOfRange)

def readDigits (position : Position) : List Char → List Char × Cursor
  | [] => ([], ⟨[], position⟩)
  | character :: rest =>
    if Digits.isDecimal character then
      let (digits, after) := readDigits (Cursor.placeAfter position character 1) rest
      (character :: digits, after)
    else
      ([], ⟨character :: rest, position⟩)

/-- Take digits into a significand as long as it fits; the count of those
taken and the digits that are left over. -/
def takeDigits (significand taken : Nat) : List Char → Nat × Nat × List Char
  | [] => (significand, taken, [])
  | digit :: rest =>
    let value := (Digits.decimal? digit).getD 0
    if fitsWord significand value then
      takeDigits (significand * 10 + value) (taken + 1) rest
    else
      (significand, taken, digit :: rest)

def readExponent (isNegative : Bool) (significand : Nat) (before : Int) (cursor : Cursor) :
    Except Fault (Number × Cursor) :=
  let cursor := cursor.next
  let rises := cursor.peek? ≠ some '-'
  let cursor := if cursor.peek? = some '+' || cursor.peek? = some '-' then cursor.next else cursor
  match cursor.peek? with
  | none => .error (cursor.fault .endInValue)
  | some character =>
    if !Digits.isDecimal character then
      .error (cursor.peekFault .invalidNumber)
    else
      let (digits, after) := readDigits cursor.position cursor.rest
      let exponent := Digits.ofDecimal digits
      if exponent < Nat.pow 2 31 then
        realNumber isNegative significand (if rises then before + exponent else before - exponent)
          after
      else if significand ≠ 0 && rises then
        let read := (List.range digits.length).find? fun count =>
          Digits.ofDecimal (digits.take (count + 1)) ≥ Nat.pow 2 31
        let place : Position :=
          ⟨cursor.position.line, cursor.position.column + (read.getD 0) + 1⟩
        .error ⟨.numberOutOfRange, some place⟩
      else
        .ok (.real isNegative ⟨0, Binary64.lowestExponent⟩, after)

/-- Read what follows the digits of a number that is not whole. -/
def readScale (isNegative : Bool) (significand : Nat) (exponent : Int) (cursor : Cursor) :
    Except Fault (Number × Cursor) :=
  match cursor.peek? with
  | some 'e' | some 'E' => readExponent isNegative significand exponent cursor
  | _ => realNumber isNegative significand exponent cursor

def readFraction (isNegative : Bool) (significand : Nat) (before : Int) (cursor : Cursor) :
    Except Fault (Number × Cursor) :=
  let cursor := cursor.next
  let (digits, after) := readDigits cursor.position cursor.rest
  if digits = [] then
    match after.peek? with
    | some _ => .error (after.peekFault .invalidNumber)
    | none => .error (after.peekFault .endInValue)
  else
    let (significand, taken, _) := takeDigits significand 0 digits
    readScale isNegative significand (before - taken) after

def readMagnitude (isNegative : Bool) (cursor : Cursor) : Except Fault (Number × Cursor) :=
  match cursor.peek? with
  | none => .error (cursor.fault .endInValue)
  | some first =>
    if !Digits.isDecimal first then
      .error (cursor.peekFault .invalidNumber)
    else
      let (digits, after) := readDigits cursor.position cursor.rest
      if first = '0' && digits.length > 1 then
        .error (cursor.next.peekFault .invalidNumber)
      else
        let (significand, _, left) := takeDigits 0 0 digits
        let exponent : Int := left.length
        match after.peek? with
        | some '.' => readFraction isNegative significand exponent after
        | some 'e' | some 'E' => readExponent isNegative significand exponent after
        | _ =>
          if left ≠ [] then
            realNumber isNegative significand exponent after
          else if !isNegative then
            .ok (.natural significand, after)
          else if significand = 0 || significand > Nat.pow 2 63 then
            realNumber true significand 0 after
          else
            .ok (.negative significand, after)

/-! ## Texts -/

/-- The cursor after `bytes` bytes, which may end inside a character; then the
rest of that character is passed over as well. -/
def Cursor.skipBytes : Nat → Cursor → Position
  | 0, cursor => cursor.position
  | bytes + 1, cursor =>
    match cursor.rest with
    | [] => cursor.position
    | character :: rest =>
      if character.utf8Size ≤ bytes + 1 then
        Cursor.skipBytes (bytes + 1 - character.utf8Size)
          ⟨rest, Cursor.placeAfter cursor.position character character.utf8Size⟩
      else
        Cursor.placeAfter cursor.position character (bytes + 1)
termination_by bytes => bytes
decreasing_by
  have positive : 0 < character.utf8Size := Char.utf8Size_pos character
  omega

def readHexDigits (cursor : Cursor) : Except Fault (Nat × Cursor) :=
  let bytes := (cursor.rest.take 4).foldl (fun total character => total + character.utf8Size) 0
  if bytes < 4 then
    let ending := cursor.rest.foldl
      (fun position character => Cursor.placeAfter position character character.utf8Size)
      cursor.position
    .error ⟨.endInString, some ending⟩
  else
    match Digits.ofHex? (cursor.rest.take 4) with
    | some code => .ok (code, cursor.next.next.next.next)
    | none => .error ⟨.invalidEscape, some (Cursor.skipBytes 4 cursor)⟩

/-- Read one expected character of the second half of a surrogate pair. -/
def readPairMark (expected : Char) (cursor : Cursor) : Except Fault Cursor :=
  match cursor.peek? with
  | none => .error (cursor.fault .endInString)
  | some character =>
    if character = expected then .ok cursor.next
    else .error (cursor.peekFault .endOfHexEscape)

def readCodeEscape (cursor : Cursor) : Except Fault (Char × Cursor) := do
  let (code, cursor) ← readHexDigits cursor
  if 0xdc00 ≤ code && code ≤ 0xdfff then
    .error (cursor.fault .loneSurrogate)
  else if code < 0xd800 || code > 0xdbff then
    pure (Char.ofNat code, cursor)
  else do
    let cursor ← readPairMark '\\' cursor
    let cursor ← readPairMark 'u' cursor
    let (low, cursor) ← readHexDigits cursor
    if low < 0xdc00 || low > 0xdfff then
      .error (cursor.fault .loneSurrogate)
    else
      pure (Char.ofNat ((code - 0xd800) * 0x400 + (low - 0xdc00) + 0x10000), cursor)

/-- The character that a one-letter escape stands for. -/
def simpleEscape? : Char → Option Char
  | '"' => some '"'
  | '\\' => some '\\'
  | '/' => some '/'
  | 'b' => some '\x08'
  | 'f' => some '\x0c'
  | 'n' => some '\n'
  | 'r' => some '\r'
  | 't' => some '\t'
  | _ => none

/-- Read one character of a text, escaped or not; none at the closing quote. -/
def readTextStep (cursor : Cursor) : Except Fault (Option Char × Cursor) :=
  match cursor.peek? with
  | none => .error (cursor.fault .endInString)
  | some '"' => .ok (none, cursor.next)
  | some '\\' =>
    let cursor := cursor.next
    match cursor.peek? with
    | none => .error (cursor.fault .endInString)
    | some 'u' => do
      let (character, cursor) ← readCodeEscape cursor.next
      pure (some character, cursor)
    | some letter =>
      match simpleEscape? letter with
      | some character => .ok (some character, cursor.next)
      | none => .error (cursor.peekFault .invalidEscape)
  | some character =>
    if character.toNat < 0x20 then .error (cursor.next.fault .controlCharacter)
    else .ok (some character, cursor.next)

/-- Read the characters of a text up to its closing quote, latest first. -/
def readTextLoop (fuel : Nat) (read : List Char) (cursor : Cursor) :
    Except Fault (String × Cursor) :=
  match fuel with
  | 0 => .error (cursor.fault .endInString)
  | fuel + 1 => do
    match ← readTextStep cursor with
    | (none, after) => pure (String.ofList read.reverse, after)
    | (some character, after) => readTextLoop fuel (character :: read) after

def readText (cursor : Cursor) : Except Fault (String × Cursor) :=
  readTextLoop (cursor.rest.length + 1) [] cursor

def closeList (cursor : Cursor) : Closing :=
  let cursor := cursor.skipSpace
  match cursor.peek? with
  | some ']' => ⟨some cursor.next.position, none⟩
  | some ',' =>
    let after := cursor.next.skipSpace
    if after.peek? = some ']' then
      ⟨some after.position, some (after.peekFault .trailingComma)⟩
    else
      ⟨some after.position, some (after.peekFault .trailingCharacters)⟩
  | some _ => ⟨some cursor.position, some (cursor.peekFault .trailingCharacters)⟩
  | none => ⟨some cursor.position, some (cursor.peekFault .endInList)⟩

def closeObject (cursor : Cursor) : Closing :=
  let cursor := cursor.skipSpace
  match cursor.peek? with
  | some '\x7d' => ⟨some cursor.next.position, none⟩
  | some ',' => ⟨some cursor.position, some (cursor.peekFault .trailingComma)⟩
  | some _ => ⟨some cursor.position, some (cursor.peekFault .trailingCharacters)⟩
  | none => ⟨some cursor.position, some (cursor.peekFault .endInObject)⟩

/-- Move to the next item of a list; none at its end. -/
def nextItem (isFirst : Bool) (cursor : Cursor) : Except Fault (Option Cursor) :=
  let cursor := cursor.skipSpace
  let atItem (cursor : Cursor) : Except Fault (Option Cursor) :=
    match cursor.peek? with
    | some ']' => .error (cursor.peekFault .trailingComma)
    | some _ => .ok (some cursor)
    | none => .error (cursor.peekFault .endInValue)
  match cursor.peek? with
  | some ']' => .ok none
  | none => .error (cursor.peekFault .endInList)
  | some character =>
    if isFirst then atItem cursor
    else if character = ',' then atItem cursor.next.skipSpace
    else .error (cursor.peekFault .expectedCommaOrListEnd)

/-- Move to the next key of an object; none at its end. -/
def nextKey (isFirst : Bool) (cursor : Cursor) : Except Fault (Option Cursor) :=
  let cursor := cursor.skipSpace
  let atKey (cursor : Cursor) : Except Fault (Option Cursor) :=
    match cursor.peek? with
    | some '"' => .ok (some cursor)
    | some '\x7d' => .error (cursor.peekFault .trailingComma)
    | some _ => .error (cursor.peekFault .keyNotString)
    | none => .error (cursor.peekFault .endInValue)
  match cursor.peek? with
  | some '\x7d' => .ok none
  | none => .error (cursor.peekFault .endInObject)
  | some character =>
    if isFirst then atKey cursor
    else if character = ',' then atKey cursor.next.skipSpace
    else .error (cursor.peekFault .expectedCommaOrObjectEnd)

def readColon (cursor : Cursor) : Except Fault Cursor :=
  let cursor := cursor.skipSpace
  match cursor.peek? with
  | some ':' => .ok cursor.next
  | some _ => .error (cursor.peekFault .expectedColon)
  | none => .error (cursor.peekFault .endInObject)

/-- A reader of documents returns the document and, unless it is broken, the
cursor after it. -/
abbrev DocumentReader := Cursor → Document × Option Cursor

def readItems (readValue : DocumentReader) :
    (fuel : Nat) → (isFirst : Bool) → Cursor → Items × Option Cursor
  | 0, _, cursor => (.broken (cursor.fault .endInList), none)
  | fuel + 1, isFirst, cursor =>
    match nextItem isFirst cursor with
    | .error fault => (.broken fault, none)
    | .ok none => (.done, some cursor.skipSpace.next)
    | .ok (some start) =>
      match readValue start with
      | (value, none) => (.item value .clean .done, none)
      | (value, some after) =>
        let (rest, final) := readItems readValue fuel false after
        (.item value (closeList after) rest, final)

def readMembers (readValue : DocumentReader) :
    (fuel : Nat) → (isFirst : Bool) → Cursor → Members × Option Cursor
  | 0, _, cursor => (.broken (cursor.fault .endInObject), none)
  | fuel + 1, isFirst, cursor =>
    match nextKey isFirst cursor with
    | .error fault => (.broken fault, none)
    | .ok none => (.done, some cursor.skipSpace.next)
    | .ok (some start) =>
      match readText start.next with
      | .error fault => (.broken fault, none)
      | .ok (key, afterKey) =>
        let keyClosing := closeObject afterKey
        match readColon afterKey with
        | .error fault => (.member key keyClosing (.broken fault) .clean .done, none)
        | .ok beforeValue =>
          match readValue beforeValue with
          | (value, none) => (.member key keyClosing value .clean .done, none)
          | (value, some after) =>
            let (rest, final) := readMembers readValue fuel false after
            (.member key keyClosing value (closeObject after) rest, final)

def scalarDocument : Except Fault (Value × Cursor) → Document × Option Cursor
  | .ok (value, after) => (.scalar value (some after.position), some after)
  | .error fault => (.broken fault, none)

def readLiteral (letters : List Char) (value : Value) (cursor : Cursor) :
    Except Fault (Value × Cursor) := do
  let after ← readWord letters cursor.next
  pure (value, after)

/-- Read a document in which at most `depth` lists and objects nest. -/
def readDocument : (depth : Nat) → DocumentReader
  | depth, cursor =>
    let cursor := cursor.skipSpace
    match cursor.peek? with
    | none => (.broken (cursor.peekFault .endInValue), none)
    | some 'n' => scalarDocument (readLiteral ['u', 'l', 'l'] .null cursor)
    | some 't' => scalarDocument (readLiteral ['r', 'u', 'e'] (.boolean true) cursor)
    | some 'f' => scalarDocument (readLiteral ['a', 'l', 's', 'e'] (.boolean false) cursor)
    | some '"' =>
      scalarDocument do
        let (text, after) ← readText cursor.next
        pure (.text text, after)
    | some '[' =>
      match depth with
      | 0 => (.broken (cursor.peekFault .recursionLimit), none)
      | depth + 1 =>
        let inside := cursor.next
        let (items, after) :=
          readItems (readDocument depth) (inside.rest.length + 1) true inside
        (.list (some cursor.position) (closeList inside) items, after)
    | some '\x7b' =>
      match depth with
      | 0 => (.broken (cursor.peekFault .recursionLimit), none)
      | depth + 1 =>
        let inside := cursor.next
        let (members, after) :=
          readMembers (readDocument depth) (inside.rest.length + 1) true inside
        (.record (some cursor.position) (closeObject inside) members, after)
    | some '-' =>
      scalarDocument do
        let (number, after) ← readMagnitude true cursor.next
        pure (.number number, after)
    | some character =>
      if Digits.isDecimal character then
        scalarDocument do
          let (number, after) ← readMagnitude false cursor
          pure (.number number, after)
      else
        (.broken (cursor.peekFault .expectedValue), none)

/-- How many lists and objects may nest in a text. -/
def nestingLimit : Nat :=
  127

/-- The document of a text, and the fault of characters that come after it. -/
def documentOfText (text : String) : Document × Option Fault :=
  match readDocument nestingLimit (Cursor.ofText text) with
  | (document, none) => (document, none)
  | (document, some after) =>
    let ending := after.skipSpace
    (document,
      if ending.rest = [] then none else some (ending.peekFault .trailingCharacters))

def valueOfText (text : String) : Except Fault Value := do
  let (document, trailing) := documentOfText text
  let value ← document.value
  match trailing with
  | some fault => .error fault
  | none => pure value

end ScriptBundle.Json
