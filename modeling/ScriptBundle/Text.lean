/-!
# Texts

What scripts, patterns and messages ask of texts as such: which characters are
blank, where a text occurs in another, how numbers are written in escapes and
tables, and how any text is written as a literal.

Every occurrence of a pattern is replaced from left to right and without
overlap; the empty pattern occurs before each character and at the end.

A text can be written as a double-quoted string literal.  The quote and the
backslash are escaped, and so is every character that may not stand in a
literal as it is: control characters, and the two Unicode line separators,
which older readers refuse.  The same literal can be read as JSON, so a JSON
document travels inside a script as the literal of its text.
-/

namespace ScriptBundle.Text

/-- Whether a character has the Unicode property `White_Space`. -/
def isBlank (character : Char) : Bool :=
  let code := character.toNat
  (9 ≤ code && code ≤ 13) || code = 0x20 || code = 0x85 || code = 0xa0 || code = 0x1680 ||
    (0x2000 ≤ code && code ≤ 0x200a) || code = 0x2028 || code = 0x2029 || code = 0x202f ||
    code = 0x205f || code = 0x3000

def trimEndChars (characters : List Char) : List Char :=
  (characters.reverse.dropWhile isBlank).reverse

def trimEnd (text : String) : String :=
  String.ofList (trimEndChars text.toList)

/-- Replace `pattern` after the next `covered` characters, which belong to an
occurrence that was already replaced. -/
def replaceCovered (pattern replacement : List Char) : Nat → List Char → List Char
  | _, [] => if pattern = [] then replacement else []
  | covered + 1, _ :: rest => replaceCovered pattern replacement covered rest
  | 0, character :: rest =>
    if pattern = [] then
      replacement ++ character :: replaceCovered pattern replacement 0 rest
    else if pattern.isPrefixOf (character :: rest) then
      replacement ++ replaceCovered pattern replacement (pattern.length - 1) rest
    else
      character :: replaceCovered pattern replacement 0 rest

def replaceAll (text pattern replacement : String) : String :=
  String.ofList (replaceCovered pattern.toList replacement.toList 0 text.toList)

def occursIn (pattern : List Char) : List Char → Bool
  | [] => pattern.isEmpty
  | character :: rest => pattern.isPrefixOf (character :: rest) || occursIn pattern rest

def contains (text pattern : String) : Bool :=
  occursIn pattern.toList text.toList

def splitAt (separator : Char) : List Char → List (List Char)
  | [] => [[]]
  | character :: rest =>
    if character = separator then
      [] :: splitAt separator rest
    else
      match splitAt separator rest with
      | [] => [[character]]
      | first :: others => (character :: first) :: others

end ScriptBundle.Text

namespace ScriptBundle.Digits

def decimal? (character : Char) : Option Nat :=
  if '0' ≤ character ∧ character ≤ '9' then
    some (character.toNat - '0'.toNat)
  else
    none

/-- The value of a hexadecimal digit of either case. -/
def hex? (character : Char) : Option Nat :=
  if '0' ≤ character ∧ character ≤ '9' then
    some (character.toNat - '0'.toNat)
  else if 'a' ≤ character ∧ character ≤ 'f' then
    some (character.toNat - 'a'.toNat + 10)
  else if 'A' ≤ character ∧ character ≤ 'F' then
    some (character.toNat - 'A'.toNat + 10)
  else
    none

def isDecimal (character : Char) : Bool :=
  (decimal? character).isSome

def isHex (character : Char) : Bool :=
  (hex? character).isSome

/-- The lower-case digit of a value below sixteen. -/
def hexDigit (value : Nat) : Char :=
  if value < 10 then
    Char.ofNat ('0'.toNat + value)
  else
    Char.ofNat ('a'.toNat + (value - 10))

/-- The number that hexadecimal digits spell, if all of them are digits. -/
def ofHex? (digits : List Char) : Option Nat :=
  digits.foldl
    (fun value digit => do
      let before ← value
      let next ← hex? digit
      pure (before * 16 + next))
    (some 0)

/-- The number that decimal digits spell; other characters count as zero. -/
def ofDecimal (digits : List Char) : Nat :=
  digits.foldl (fun value digit => value * 10 + (decimal? digit).getD 0) 0

/-- The last `width` hexadecimal digits of a number. -/
def hexPadded (width value : Nat) : List Char :=
  match width with
  | 0 => []
  | width + 1 => hexPadded width (value / 16) ++ [hexDigit (value % 16)]

/-- How many hexadecimal digits a number needs. -/
def hexWidth (value : Nat) : Nat :=
  if _h : value < 16 then 1 else hexWidth (value / 16) + 1
termination_by value
decreasing_by omega

/-- A number in hexadecimal without leading zeros. -/
def hex (value : Nat) : List Char :=
  hexPadded (hexWidth value) value

end ScriptBundle.Digits

namespace ScriptBundle.Literal

/-- The mark some editors put at the start of a file. -/
def byteOrderMark : Char :=
  '\uFEFF'

def dropMark : List Char → List Char
  | character :: rest => if character = byteOrderMark then rest else character :: rest
  | [] => []

def withoutMark (text : String) : String :=
  String.ofList (dropMark text.toList)

/-- The escape of a code point below `0x10000` by its four hexadecimal digits. -/
def unicodeEscape (code : Nat) : List Char :=
  '\\' :: 'u' :: Digits.hexPadded 4 code

def escape (character : Char) : List Char :=
  if character = '"' then ['\\', '"']
  else if character = '\\' then ['\\', '\\']
  else if character = '\n' then ['\\', 'n']
  else if character = '\r' then ['\\', 'r']
  else if character = '\t' then ['\\', 't']
  else if character.toNat < 0x20 || character.toNat = 0x2028 || character.toNat = 0x2029 then
    unicodeEscape character.toNat
  else
    [character]

def quoteChars (text : List Char) : List Char :=
  '"' :: text.flatMap escape ++ ['"']

def quote (text : String) : String :=
  String.ofList (quoteChars text.toList)

def jsonModule (document : String) : String :=
  "module.exports = JSON.parse(" ++ quote document ++ ");"

end ScriptBundle.Literal
