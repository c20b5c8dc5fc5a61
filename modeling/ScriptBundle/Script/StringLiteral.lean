import ScriptBundle.Script.Token

/-!
# Quoted strings in scripts

A string between quotes is read one step at a time; a step takes a character
or an escape and yields the code units it stands for, which may be none where
a line is continued.  Units that are halves of a surrogate pair are put
together in the end, and halves without a partner become the replacement
character.

The writer chooses the quote that occurs less often, and escapes it together
with the characters that cannot stand for themselves.
-/

namespace ScriptBundle.Script

/-- The first half of a surrogate pair. -/
def isHighUnit (unit : Nat) : Bool :=
  0xd800 ≤ unit && unit ≤ 0xdbff

/-- The second half of a surrogate pair. -/
def isLowUnit (unit : Nat) : Bool :=
  0xdc00 ≤ unit && unit ≤ 0xdfff

/-- Code units as characters, after a first half that is still waiting for its
second.  A half without a partner is replaced. -/
def textOfUnits (waiting : Option Nat) : List Nat → List Char
  | [] => waiting.toList.map fun _ => '\uFFFD'
  | unit :: rest =>
    if isLowUnit unit then
      match waiting with
      | some high =>
        Char.ofNat ((high - 0xd800) * 0x400 + (unit - 0xdc00) + 0x10000) :: textOfUnits none rest
      | none => '\uFFFD' :: textOfUnits none rest
    else
      let lost := waiting.toList.map fun _ => '\uFFFD'
      if isHighUnit unit then lost ++ textOfUnits (some unit) rest
      else lost ++ Char.ofNat unit :: textOfUnits none rest

/-- The digits up to a closing brace, if there is at least one and they spell
a code point. -/
def bracedCode? (rest : List Char) : Option (Nat × List Char) :=
  let digits := rest.takeWhile Digits.isHex
  match rest.dropWhile Digits.isHex with
  | '\x7d' :: after =>
    match Digits.ofHex? digits with
    | some code => if digits ≠ [] && code ≤ 0x10ffff then some (code, after) else none
    | none => none
  | _ => none

/-- The code of an escape after its `u`. -/
def unicodeCode? : List Char → Option (Nat × List Char)
  | '\x7b' :: rest => bracedCode? rest
  | first :: second :: third :: fourth :: rest =>
    (Digits.ofHex? [first, second, third, fourth]).map fun code => (code, rest)
  | _ => none

/-- The code of an escape after its `x`. -/
def byteCode? : List Char → Option (Nat × List Char)
  | first :: second :: rest => (Digits.ofHex? [first, second]).map fun code => (code, rest)
  | _ => none

/-- A digit of a number of base eight. -/
def isOctal (character : Char) : Bool :=
  '0' ≤ character && character ≤ '7'

/-- Read an escape after its backslash: the code units it stands for and what
follows.  A zero stands for the first code unit, but no number of base eight
is an escape; `8` and `9` stand for themselves. -/
def readEscape? : List Char → Option (List Nat × List Char)
  | [] => none
  | '\r' :: '\n' :: rest => some ([], rest)
  | 'n' :: rest => some ([10], rest)
  | 'r' :: rest => some ([13], rest)
  | 't' :: rest => some ([9], rest)
  | 'b' :: rest => some ([8], rest)
  | 'f' :: rest => some ([12], rest)
  | 'v' :: rest => some ([11], rest)
  | 'x' :: rest => (byteCode? rest).map fun (code, rest) => ([code], rest)
  | 'u' :: rest => (unicodeCode? rest).map fun (code, rest) => ([code], rest)
  | '0' :: rest => if (rest.head?).any isOctal then none else some ([0], rest)
  | character :: rest =>
    if isLineEnd character then some ([], rest)
    else if isOctal character then none
    else some ([character.toNat], rest)

/-- Read the inside of a string up to its closing quote: the code units and
what follows the quote.  A line may not end inside, but the two separators of
Unicode may stand in a string. -/
def readUnits? (quote : Char) : (fuel : Nat) → List Char → Option (List Nat × List Char)
  | 0, _ => none
  | _, [] => none
  | fuel + 1, '\\' :: rest => do
    let (units, rest) ← readEscape? rest
    let (others, after) ← readUnits? quote fuel rest
    pure (units ++ others, after)
  | fuel + 1, character :: rest =>
    if character = quote then some ([], rest)
    else if character = '\n' || character = '\r' then none
    else do
      let (others, after) ← readUnits? quote fuel rest
      pure (character.toNat :: others, after)

/-- Read a string at its opening quote: its value and what follows. -/
def readString? : List Char → Option (String × List Char)
  | [] => none
  | quote :: rest => do
    let (units, after) ← readUnits? quote (rest.length + 1) rest
    pure (String.ofList (textOfUnits none units), after)

def preferredQuote (text : List Char) : Char :=
  if text.count '"' > text.count '\'' then '\'' else '"'

/-- How a character is written inside quotes, given the one after it. -/
def escapeFor (quote character : Char) (next : Option Char) : List Char :=
  let code := character.toNat
  if character = quote || character = '\\' then ['\\', character]
  else if code = 0 then
    if next.any Digits.isDecimal then ['\\', 'x', '0', '0'] else ['\\', '0']
  else if code = 8 then ['\\', 'b']
  else if code = 12 then ['\\', 'f']
  else if code = 10 then ['\\', 'n']
  else if code = 13 then ['\\', 'r']
  else if code = 11 then ['\\', 'v']
  else if code = 9 then [character]
  else if code < 0x20 then '\\' :: 'x' :: Digits.hexPadded 2 code
  else if code = 0x2028 || code = 0x2029 then '\\' :: 'u' :: Digits.hexPadded 4 code
  else if code = 0xfeff then ['\\', 'u', 'F', 'E', 'F', 'F']
  else [character]

def escapeAll (quote : Char) : List Char → List Char
  | [] => []
  | character :: rest => escapeFor quote character rest.head? ++ escapeAll quote rest

def quoted (text : String) : String :=
  let characters := text.toList
  let quote := preferredQuote characters
  String.ofList (quote :: escapeAll quote characters ++ [quote])

end ScriptBundle.Script
