import ScriptBundle.Unicode.Property
import ScriptBundle.Unicode.WritingSystem

/-!
# Pattern expressions

A pattern refers to sets of characters by name: the short classes of ASCII in
brackets, and the properties of the Unicode character database.  Names of
properties are compared without regard to case, spaces, hyphens and
underscores, and a leading `is` is dropped.

A pattern is a regular expression.  What it matches is told by the places of a
text it can lead to: an expression takes every place where it may start to the
places where it may end.  Sets of places are numbers whose bits stand for the
places, so that sequence is composition, choice is union, and an assertion
keeps the places where it holds.
-/

namespace ScriptBundle.Pattern

def asciiSet (pairs : List (Char × Char)) : CodeSet :=
  ⟨pairs.map fun pair => (pair.1.toNat, pair.2.toNat)⟩

def asciiClass? : String → Option CodeSet
  | "alnum" => some (asciiSet [('0', '9'), ('A', 'Z'), ('a', 'z')])
  | "alpha" => some (asciiSet [('A', 'Z'), ('a', 'z')])
  | "ascii" => some (CodeSet.range 0 0x7f)
  | "blank" => some (asciiSet [('\t', '\t'), (' ', ' ')])
  | "cntrl" => some ⟨[(0, 0x1f), (0x7f, 0x7f)]⟩
  | "digit" => some (asciiSet [('0', '9')])
  | "graph" => some (asciiSet [('!', '~')])
  | "lower" => some (asciiSet [('a', 'z')])
  | "print" => some (asciiSet [(' ', '~')])
  | "punct" => some (asciiSet [('!', '/'), (':', '@'), ('[', '\x60'), ('\x7b', '~')])
  | "space" => some ⟨[(9, 13), (0x20, 0x20)]⟩
  | "upper" => some (asciiSet [('A', 'Z')])
  | "word" => some (asciiSet [('0', '9'), ('A', 'Z'), ('_', '_'), ('a', 'z')])
  | "xdigit" => some (asciiSet [('0', '9'), ('A', 'F'), ('a', 'f')])
  | _ => none

/-- A name without the differences that do not matter. -/
def looseName (name : String) : String :=
  let kept := (name.toList.filter fun character =>
    character ≠ ' ' && character ≠ '_' && character ≠ '-').map Char.toLower
  let stripped := if ['i', 's'].isPrefixOf kept then kept.drop 2 else kept
  String.ofList (if kept = ['i', 's', 'c'] then kept else stripped)

def categoryNamed? (name : String) : Option CodeSet :=
  match name with
  | "any" => some CodeSet.all
  | "assigned" => some (Unicode.category "Cn").complement
  | "ascii" => some (CodeSet.range 0 0x7f)
  | "cntrl" => some (Unicode.category "Cc")
  | "digit" => some (Unicode.category "Nd")
  | "punct" => some (Unicode.category "P")
  | "combiningmark" => some (Unicode.category "M")
  | _ =>
    (Unicode.categoryNames.find? fun (short, long) =>
      looseName short = name || looseName long = name).map fun (short, _) =>
        Unicode.categoryByName short

def writingSystemNamed? (name : String) : Option CodeSet :=
  (Unicode.writingSystemNames.find? fun (short, long) =>
    looseName short = name || looseName long = name).map fun (short, _) =>
      Unicode.writingSystem short

/-- The property of characters with the given name. -/
def plainProperty? : String → Option CodeSet
  | "alphabetic" | "alpha" => some Unicode.alphabetic
  | "lowercase" | "lower" => some Unicode.lowercase
  | "uppercase" | "upper" => some Unicode.uppercase
  | "whitespace" | "wspace" | "space" => some Unicode.whiteSpace
  | "idstart" | "ids" => some Unicode.identifierStart
  | "idcontinue" | "idc" => some Unicode.identifierContinue
  | "graphemeextend" | "grext" => some Unicode.graphemeExtend
  | "joincontrol" | "joinc" => some (CodeSet.range 0x200c 0x200d)
  | "asciihexdigit" | "ahex" => asciiClass? "xdigit"
  | _ => none

def propertyNamed? (name : String) : Option CodeSet :=
  let name := looseName name
  let plain := if name = "cf" || name = "sc" || name = "lc" then none else plainProperty? name
  plain <|> categoryNamed? name <|> writingSystemNamed? name

def propertyValue? (property value : String) : Option CodeSet :=
  let value := looseName value
  match looseName property with
  | "gc" | "generalcategory" => categoryNamed? value
  | "sc" | "script" | "scx" | "scriptextensions" => writingSystemNamed? value
  | _ => none

/-- What an assertion demands of a place. -/
inductive Anchor where
  | textStart
  | textEnd
  | lineStart (carriageReturn : Bool)
  | lineEnd (carriageReturn : Bool)
  | wordBoundary (ascii : Bool)
  | notWordBoundary (ascii : Bool)
  | wordStart (ascii : Bool)
  | wordEnd (ascii : Bool)
  | wordStartHalf (ascii : Bool)
  | wordEndHalf (ascii : Bool)
deriving DecidableEq, Repr

/-- A regular expression. -/
inductive Expression where
  | empty
  | oneOf (set : CodeSet)
  | anchor (demand : Anchor)
  | sequence (first second : Expression)
  | choice (left right : Expression)
  /-- At least `low` times, and at most `high` times if that is given. -/
  | repeated (low : Nat) (high : Option Nat) (body : Expression)
deriving Repr, Inhabited

def placesWhere (holds : Nat → Bool) (count : Nat) : Nat :=
  (List.range count).foldl
    (fun places place => if holds place then places ||| (1 <<< place) else places) 0

/-- The letters, digits and underscores of ASCII. -/
def asciiWord : CodeSet :=
  ⟨[(0x30, 0x39), (0x41, 0x5a), (0x5f, 0x5f), (0x61, 0x7a)]⟩

/-- Whether the character at an index, if there is one, belongs to a word. -/
def isWordAt (ascii : Bool) (text : Array Char) (index : Option Nat) : Bool :=
  match index.bind (text[·]?) with
  | none => false
  | some character =>
    if character.toNat < 0x80 || ascii then asciiWord.contains character
    else Unicode.word.contains character

def before (place : Nat) : Option Nat :=
  if place = 0 then none else some (place - 1)

def Anchor.holds (text : Array Char) (demand : Anchor) (place : Nat) : Bool :=
  match demand with
  | .textStart => place = 0
  | .textEnd => place = text.size
  | .lineStart carriageReturn =>
    let previous := (before place).bind (text[·]?)
    place = 0 || previous = some '\n' ||
      (carriageReturn && previous = some '\r' && text[place]? ≠ some '\n')
  | .lineEnd carriageReturn =>
    let previous := (before place).bind (text[·]?)
    if carriageReturn then
      place = text.size || text[place]? = some '\r' ||
        (text[place]? = some '\n' && previous ≠ some '\r')
    else
      place = text.size || text[place]? = some '\n'
  | .wordBoundary ascii => isWordAt ascii text (before place) ≠ isWordAt ascii text (some place)
  | .notWordBoundary ascii =>
    isWordAt ascii text (before place) = isWordAt ascii text (some place)
  | .wordStart ascii => !isWordAt ascii text (before place) && isWordAt ascii text (some place)
  | .wordEnd ascii => isWordAt ascii text (before place) && !isWordAt ascii text (some place)
  | .wordStartHalf ascii => !isWordAt ascii text (before place)
  | .wordEndHalf ascii => !isWordAt ascii text (some place)

/-- An expression for one text: every set and assertion is replaced by the
places of the text where it holds. -/
inductive Placed where
  | empty
  | step (places : Nat)
  | keep (places : Nat)
  | sequence (first second : Placed)
  | choice (left right : Placed)
  | repeated (low : Nat) (high : Option Nat) (body : Placed)

def Expression.placedIn (text : Array Char) : Expression → Placed
  | .empty => .empty
  | .oneOf set =>
    .step (placesWhere (fun place => (text[place]?).any set.contains) text.size)
  | .anchor demand => .keep (placesWhere (demand.holds text) (text.size + 1))
  | .sequence first second => .sequence (first.placedIn text) (second.placedIn text)
  | .choice left right => .choice (left.placedIn text) (right.placedIn text)
  | .repeated low high body => .repeated low high (body.placedIn text)

/-- Apply `move` to a set of places up to `count` times, collecting all places
on the way. -/
def collect (move : Nat → Nat) : Nat → Nat → Nat → Nat
  | 0, _, reached => reached
  | count + 1, frontier, reached =>
    let moved := move frontier
    let all := reached ||| moved
    if all = reached then reached else collect move count moved all

/-- Apply `move` to a set of places exactly `count` times. -/
def iterate (move : Nat → Nat) : Nat → Nat → Nat
  | 0, places => places
  | count + 1, places => if places = 0 then 0 else iterate move count (move places)

/-- The places where an expression may end if it starts at one of the given
places of a text of `size` characters. -/
def Placed.ends (size : Nat) : Placed → Nat → Nat
  | .empty, starts => starts
  | .step places, starts => (starts &&& places) <<< 1
  | .keep places, starts => starts &&& places
  | .sequence first second, starts => second.ends size (first.ends size starts)
  | .choice left right, starts => left.ends size starts ||| right.ends size starts
  | .repeated low high body, starts =>
    let reached := iterate (body.ends size) low starts
    match high with
    | none => collect (body.ends size) (size + 1) reached reached
    | some high => collect (body.ends size) (high - low) reached reached

def Expression.matchesIn (expression : Expression) (text : String) : Bool :=
  let characters := text.toList.toArray
  (expression.placedIn characters).ends characters.size (Nat.pow 2 (characters.size + 1) - 1) ≠ 0

/-- An estimate of the bytes that a set takes in a matching machine, which
works on the bytes of a text: a state for each byte of a single character,
and a few transitions for every range of characters beyond ASCII. -/
def setSize (set : CodeSet) : Nat :=
  match set.ranges with
  | [(low, high)] =>
    if low = high then 32 * (Char.ofNat low).utf8Size
    else if high < 0x80 then 32
    else 200
  | ranges =>
    ranges.foldl (fun total range => total + if range.2 < 0x80 then 8 else 60) 32

/-- An estimate of the bytes that a matching machine for an expression takes. -/
def Expression.size : Expression → Nat
  | .empty => 32
  | .oneOf set => setSize set
  | .anchor _ => 32
  | .sequence first second => first.size + second.size
  | .choice left right => left.size + right.size + 44
  | .repeated low high body =>
    match high with
    | none => (max low 1) * body.size + 40
    | some high => high * body.size + (high - low) * 40 + 32

/-- The largest size of a machine. -/
def sizeLimit : Nat :=
  10485760

end ScriptBundle.Pattern
