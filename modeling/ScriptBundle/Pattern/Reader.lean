import ScriptBundle.Pattern.Expression
import ScriptBundle.Text

/-!
# Reading patterns

The written form of patterns: literals, classes in brackets with set
operations, groups, alternation, counted repetition, assertions, and flags
that hold to the end of the group they stand in.  Assertions about what comes
around a match and references back to a group are not part of it.

A reader gives none where the text is not a pattern.
-/

namespace ScriptBundle.Pattern

/-- The flags in force at a place of a pattern. -/
structure Flags where
  ignoreCase : Bool
  multiLine : Bool
  dotAll : Bool
  unicode : Bool
  carriageReturn : Bool
  extended : Bool
deriving DecidableEq, Repr

def Flags.initial : Flags :=
  ⟨false, false, false, true, false, false⟩

/-- Drop blanks and comments; `inComment` tells whether a comment is open. -/
def dropBlanks (inComment : Bool) : List Char → List Char
  | [] => []
  | character :: rest =>
    if inComment then dropBlanks (character ≠ '\n') rest
    else if character = '#' then dropBlanks true rest
    else if Text.isBlank character then dropBlanks false rest
    else character :: rest

/-- Drop what does not count between the parts of a pattern. -/
def skip (flags : Flags) (rest : List Char) : List Char :=
  if flags.extended then dropBlanks false rest else rest

def complementUnder (flags : Flags) (set : CodeSet) : CodeSet :=
  if flags.unicode then set.complement
  else set.complement.inter (CodeSet.range 0 0xff)

/-- The set with all letters that differ in case only, if the flags ask for
it. -/
def foldUnder (flags : Flags) (set : CodeSet) : CodeSet :=
  if !flags.ignoreCase then set
  else if flags.unicode then Unicode.closeUnderCase set
  else (Unicode.closeUnderCase set).inter (CodeSet.range 0 0xff)

/-- An expression for one character of a set.  Without Unicode only sets of
ASCII can be matched. -/
def expressionOfSet? (flags : Flags) (set : CodeSet) : Option Expression :=
  if flags.unicode || (set.ranges.all fun range => range.2 < 0x80) then
    some (.oneOf set)
  else
    none

def literalSet? (flags : Flags) (character : Char) : Option CodeSet :=
  if flags.unicode || character.toNat < 0x80 then
    some (foldUnder flags (CodeSet.single character))
  else
    none

def letterClass (flags : Flags) : Char → CodeSet
  | 'd' => if flags.unicode then Unicode.decimalDigit else CodeSet.range 0x30 0x39
  | 's' => if flags.unicode then Unicode.whiteSpace else ⟨[(9, 13), (0x20, 0x20)]⟩
  | _ => if flags.unicode then Unicode.word else asciiWord

/-- What an escape stands for. -/
inductive Primitive where
  | literal (character : Char)
  | set (set : CodeSet)
  | anchor (demand : Anchor)

def isMeta (character : Char) : Bool :=
  ['\\', '.', '+', '*', '?', '(', ')', '|', '[', ']', '\x7b', '\x7d', '^', '$', '#', '&', '-',
    '~'].contains character

/-- A character that stands for itself after a backslash. -/
def isEscapable (character : Char) : Bool :=
  isMeta character ||
    (character.toNat < 0x80 && !character.isAlphanum && character ≠ '<' && character ≠ '>')

/-- The character with the given number, if there is one. -/
def character? (code : Nat) : Option Char :=
  if code < 0xd800 || (0xdfff < code && code ≤ CodeSet.last) then some (Char.ofNat code) else none

def readBracedHex (flags : Flags) (fuel : Nat) (digits : List Char) (rest : List Char) :
    Option (List Char × List Char) :=
  match fuel with
  | 0 => none
  | fuel + 1 =>
    match skip flags rest with
    | [] => none
    | '\x7d' :: after => some (digits.reverse, skip flags after)
    | character :: after =>
      if Digits.isHex character then readBracedHex flags fuel (character :: digits) after else none

def readFixedHex (flags : Flags) : Nat → List Char → Option (List Char × List Char)
  | 0, rest => some ([], skip flags rest)
  | count + 1, rest =>
    match skip flags rest with
    | [] => none
    | character :: after =>
      if Digits.isHex character then
        (readFixedHex flags count after).map fun (digits, after) => (character :: digits, after)
      else
        none

/-- Read a character by its number after the letter of the escape. -/
def readHexEscape (flags : Flags) (width : Nat) (rest : List Char) :
    Option (Primitive × List Char) := do
  let (digits, after) ←
    match skip flags rest with
    | '\x7b' :: after => readBracedHex flags (after.length + 1) [] after
    | rest => readFixedHex flags width rest
  let code ← if digits = [] then none else Digits.ofHex? digits
  let character ← character? code
  pure (.literal character, after)

/-- Split a name at the first place where one of the marks of a value stands. -/
def splitProperty (name : List Char) : Option (Bool × List Char × List Char) :=
  let unequal := (List.range name.length).find? fun index =>
    ['!', '='].isPrefixOf (name.drop index)
  match unequal with
  | some index => some (true, name.take index, name.drop (index + 2))
  | none =>
    let mark := if name.contains ':' then ':' else '='
    if name.contains mark then
      some (false, name.takeWhile (· ≠ mark), (name.dropWhile (· ≠ mark)).drop 1)
    else
      none

def readBracedName (flags : Flags) (fuel : Nat) (name : List Char) (rest : List Char) :
    Option (List Char × List Char) :=
  match fuel with
  | 0 => none
  | fuel + 1 =>
    match skip flags rest with
    | [] => none
    | '\x7d' :: after => some (name.reverse, after)
    | character :: after => readBracedName flags fuel (character :: name) after

/-- Read a class given by a property, after the letter of the escape. -/
def readProperty (flags : Flags) (negated : Bool) (rest : List Char) :
    Option (Primitive × List Char) := do
  if !flags.unicode then
    none
  let (flipped, set?, after) ←
    match skip flags rest with
    | [] => none
    | '\x7b' :: after => do
      let (name, after) ← readBracedName flags (after.length + 1) [] after
      match splitProperty name with
      | some (unequal, property, value) =>
        pure (unequal, propertyValue? (String.ofList property) (String.ofList value), after)
      | none => pure (false, propertyNamed? (String.ofList name), after)
    | letter :: after =>
      if letter = '\\' then none
      else pure (false, propertyNamed? (String.ofList [letter]), skip flags after)
  let set ← set?
  let folded := foldUnder flags set
  pure (.set (if negated = flipped then folded else folded.complement), after)

/-- The assertion about words with the given name. -/
def wordAnchor? (ascii : Bool) : List Char → Option Anchor
  | ['s', 't', 'a', 'r', 't'] => some (.wordStart ascii)
  | ['e', 'n', 'd'] => some (.wordEnd ascii)
  | ['s', 't', 'a', 'r', 't', '-', 'h', 'a', 'l', 'f'] => some (.wordStartHalf ascii)
  | ['e', 'n', 'd', '-', 'h', 'a', 'l', 'f'] => some (.wordEndHalf ascii)
  | _ => none

/-- Whether a character may stand in the name of an assertion about words. -/
def isWordAnchorCharacter (character : Char) : Bool :=
  character.isAlpha || character = '-'

/-- The letters of a name and what follows them. -/
def readAnchorName (flags : Flags) (fuel : Nat) (name : List Char) (rest : List Char) :
    List Char × List Char :=
  match fuel, rest with
  | fuel + 1, character :: after =>
    if isWordAnchorCharacter character then
      readAnchorName flags fuel (character :: name) (skip flags after)
    else
      (name.reverse, rest)
  | _, rest => (name.reverse, rest)

/-- Read what follows the escape of a word boundary: a name in braces, unless
the braces hold a count. -/
def readWordBoundary (flags : Flags) (rest : List Char) : Option (Primitive × List Char) :=
  let ascii := !flags.unicode
  match rest with
  | '\x7b' :: after =>
    match skip flags after with
    | [] => none
    | character :: others =>
      if isWordAnchorCharacter character then
        match readAnchorName flags (others.length + 2) [] (character :: others) with
        | (name, '\x7d' :: after) =>
          (wordAnchor? ascii name).map fun anchor => (.anchor anchor, after)
        | _ => none
      else
        some (.anchor (.wordBoundary ascii), rest)
  | _ => some (.anchor (.wordBoundary ascii), rest)

def readEscape (flags : Flags) : List Char → Option (Primitive × List Char)
  | [] => none
  | 'x' :: rest => readHexEscape flags 2 rest
  | 'u' :: rest => readHexEscape flags 4 rest
  | 'U' :: rest => readHexEscape flags 8 rest
  | 'p' :: rest => readProperty flags false rest
  | 'P' :: rest => readProperty flags true rest
  | character :: rest =>
    if isEscapable character then some (.literal character, rest)
    else if ['d', 's', 'w'].contains character then
      some (.set (letterClass flags character), rest)
    else if ['D', 'S', 'W'].contains character then
      some (.set (complementUnder flags (letterClass flags character.toLower)), rest)
    else
      match character with
      | 'a' => some (.literal '\x07', rest)
      | 'f' => some (.literal '\x0c', rest)
      | 't' => some (.literal '\t', rest)
      | 'n' => some (.literal '\n', rest)
      | 'r' => some (.literal '\r', rest)
      | 'v' => some (.literal '\x0b', rest)
      | 'A' => some (.anchor .textStart, rest)
      | 'z' => some (.anchor .textEnd, rest)
      | 'b' => readWordBoundary flags rest
      | 'B' => some (.anchor (.notWordBoundary !flags.unicode), rest)
      | '<' => some (.anchor (.wordStart !flags.unicode), rest)
      | '>' => some (.anchor (.wordEnd !flags.unicode), rest)
      | _ => none

/-! ## Classes -/

/-- A part that was read, how deep expressions nest in it, and what follows. -/
structure Read (Part : Type) where
  part : Part
  depth : Nat
  rest : List Char

/-- How two sets are combined inside a class. -/
inductive SetOperation where
  | intersection
  | difference
  | symmetricDifference

/-- Combine two sets. -/
def SetOperation.apply (flags : Flags) (operation : SetOperation) (left right : CodeSet) :
    CodeSet :=
  let left := foldUnder flags left
  let right := foldUnder flags right
  match operation with
  | .intersection => left.inter right
  | .difference => left.difference right
  | .symmetricDifference => left.symmetricDifference right

/-- The items of a class read so far: their union, their count, how deep they
nest, and the operation that waits for them with its left side. -/
structure ClassItems where
  set : CodeSet
  count : Nat
  depth : Nat
  waiting : Option (SetOperation × CodeSet × Nat)

def ClassItems.start : ClassItems :=
  ⟨.empty, 0, 0, none⟩

def ClassItems.add (items : ClassItems) (set : CodeSet) (depth : Nat) : ClassItems :=
  ⟨items.set.union set, items.count + 1, max items.depth depth, items.waiting⟩

/-- The set of all items with the waiting operation applied. -/
def ClassItems.finish (flags : Flags) (items : ClassItems) : CodeSet × Nat :=
  let depth := if items.count > 1 then items.depth + 1 else items.depth
  match items.waiting with
  | none => (items.set, depth)
  | some (operation, left, leftDepth) =>
    (operation.apply flags left items.set, max leftDepth depth + 1)

/-- Let an operation wait for the items to come. -/
def ClassItems.await (flags : Flags) (items : ClassItems) (operation : SetOperation) :
    ClassItems :=
  let (set, depth) := items.finish flags
  ⟨.empty, 0, 0, some (operation, set, depth)⟩

def readClassPrimitive (flags : Flags) : List Char → Option (Primitive × List Char)
  | [] => none
  | '\\' :: rest => readEscape flags rest
  | character :: rest => some (.literal character, rest)

def classLiteral? (flags : Flags) : Primitive → Option Char
  | .literal character =>
    if flags.unicode || character.toNat < 0x80 then some character else none
  | _ => none

def readClassRange (flags : Flags) (rest : List Char) : Option (CodeSet × List Char) := do
  let (first, after) ← readClassPrimitive flags rest
  let after := skip flags after
  let single : Option (CodeSet × List Char) :=
    match first with
    | .literal _ => (classLiteral? flags first).map fun character =>
        (CodeSet.single character, after)
    | .set set => some (set, after)
    | .anchor _ => none
  match after with
  | [] => none
  | '-' :: others =>
    match skip flags others with
    | ']' :: _ | '-' :: _ => single
    | [] => none
    | others => do
      let (second, after) ← readClassPrimitive flags others
      let low ← classLiteral? flags first
      let high ← classLiteral? flags second
      if low.toNat ≤ high.toNat then
        pure (CodeSet.range low.toNat high.toNat, after)
      else
        none
  | _ => single

/-- Read a class of ASCII after its opening bracket, if there is one. -/
def readAsciiClass? (flags : Flags) (rest : List Char) : Option (CodeSet × List Char) :=
  match rest with
  | ':' :: inside =>
    let (negated, inside) :=
      match inside with
      | '^' :: inside => (true, inside)
      | inside => (false, inside)
    match inside.dropWhile (· ≠ ':') with
    | ':' :: ']' :: after => do
      let set ← asciiClass? (String.ofList (inside.takeWhile (· ≠ ':')))
      let folded := foldUnder flags set
      pure (if negated then complementUnder flags folded else folded, after)
    | _ => none
  | _ => none

/-- Read the hyphens at the start of a class, which stand for themselves. -/
def readLeadingHyphens (flags : Flags) (fuel : Nat) (items : ClassItems) (rest : List Char) :
    ClassItems × List Char :=
  match fuel, rest with
  | fuel + 1, '-' :: after =>
    readLeadingHyphens flags fuel (items.add (CodeSet.single '-') 0) (skip flags after)
  | _, rest => (items, rest)

/-- What a class starts with: whether it is negated, and the items that stand
for themselves only there. -/
def readClassStart (flags : Flags) (rest : List Char) : Bool × ClassItems × List Char :=
  let rest := skip flags rest
  let (negated, rest) :=
    match rest with
    | '^' :: after => (true, skip flags after)
    | rest => (false, rest)
  let (items, rest) := readLeadingHyphens flags rest.length .start rest
  match rest with
  | ']' :: after =>
    if items.count = 0 then (negated, items.add (CodeSet.single ']') 0, skip flags after)
    else (negated, items, rest)
  | rest => (negated, items, rest)

def readClassItems (flags : Flags) :
    (fuel : Nat) → (negated : Bool) → ClassItems → List Char → Option (Read CodeSet)
  | 0, _, _, _ => none
  | fuel + 1, negated, items, rest =>
    match skip flags rest with
    | [] => none
    | ']' :: after =>
      let (set, depth) := items.finish flags
      let folded := foldUnder flags set
      some ⟨if negated then complementUnder flags folded else folded, depth + 1, after⟩
    | '[' :: after =>
      match readAsciiClass? flags after with
      | some (set, after) => readClassItems flags fuel negated (items.add set 0) after
      | none =>
        let (innerNegated, innerItems, inside) := readClassStart flags after
        match readClassItems flags fuel innerNegated innerItems inside with
        | some inner =>
          readClassItems flags fuel negated (items.add inner.part inner.depth) inner.rest
        | none => none
    | '&' :: '&' :: after =>
      readClassItems flags fuel negated (items.await flags .intersection) after
    | '-' :: '-' :: after =>
      readClassItems flags fuel negated (items.await flags .difference) after
    | '~' :: '~' :: after =>
      readClassItems flags fuel negated (items.await flags .symmetricDifference) after
    | rest =>
      match readClassRange flags rest with
      | some (set, after) => readClassItems flags fuel negated (items.add set 0) after
      | none => none

def readClass (flags : Flags) (rest : List Char) : Option (Read CodeSet) :=
  let (negated, items, inside) := readClassStart flags rest
  readClassItems flags (inside.length + 1) negated items inside

def countDigits (flags : Flags) : List Char → List Char × List Char
  | [] => ([], [])
  | character :: rest =>
    if Digits.isDecimal character then
      let (digits, after) := countDigits flags rest
      (character :: digits, after)
    else if flags.extended && Text.isBlank character then
      countDigits flags rest
    else
      ([], character :: rest)

/-- Read a decimal number, which may have blanks around it. -/
def readCount (flags : Flags) (rest : List Char) : Option Nat × List Char :=
  let (digits, after) := countDigits flags (rest.dropWhile Text.isBlank)
  let value := Digits.ofDecimal digits
  (if digits = [] || value ≥ Nat.pow 2 32 then none else some value, after.dropWhile Text.isBlank)

/-- Read the bounds of a counted repetition after its opening brace. -/
def readBounds (flags : Flags) (rest : List Char) :
    Option (Nat × Option Nat × List Char) := do
  let (low?, after) := readCount flags (skip flags rest)
  match after with
  | ',' :: after =>
    match skip flags after with
    | '\x7d' :: after => pure (← low?, none, after)
    | after => do
      let low ← low?
      let (high?, after) := readCount flags after
      let high ← high?
      match after with
      | '\x7d' :: after => if low ≤ high then pure (low, some high, after) else none
      | _ => none
  | '\x7d' :: after => do
    let count ← low?
    pure (count, some count, after)
  | _ => none

/-- Drop the mark that makes a repetition prefer few rounds: it does not change
what can be matched. -/
def dropLazyMark : List Char → List Char
  | '?' :: rest => rest
  | rest => rest

/-! ## Flags and groups -/

def Flags.set? (flags : Flags) (value : Bool) : Char → Option Flags
  | 'i' => some { flags with ignoreCase := value }
  | 'm' => some { flags with multiLine := value }
  | 's' => some { flags with dotAll := value }
  | 'U' => some flags
  | 'u' => some { flags with unicode := value }
  | 'R' => some { flags with carriageReturn := value }
  | 'x' => some { flags with extended := value }
  | _ => none

/-- Read flags up to the character that ends them.  No flag may be repeated,
and a sign of negation needs a flag after it. -/
def readFlags (flags : Flags) (seen : List Char) (value : Bool) (dangling : Bool) :
    List Char → Option (Flags × List Char × List Char)
  | [] => none
  | character :: rest =>
    if character = ':' || character = ')' then
      if dangling then none else some (flags, seen, character :: rest)
    else if seen.contains character then
      none
    else if character = '-' then
      readFlags flags (character :: seen) false true rest
    else
      match flags.set? value character with
      | some changed => readFlags changed (character :: seen) value false rest
      | none => none

def isGroupNameCharacter (isFirst : Bool) (character : Char) : Bool :=
  character = '_' || Unicode.alphabetic.contains character ||
    (!isFirst && (character = '.' || character = '[' || character = ']' ||
      (Unicode.category "N").contains character))

def readGroupName (name : List Char) : List Char → Option (String × List Char)
  | [] => none
  | '>' :: rest => if name = [] then none else some (String.ofList name.reverse, rest)
  | character :: rest =>
    if isGroupNameCharacter name.isEmpty character then readGroupName (character :: name) rest
    else none

/-- What the start of a group says. -/
inductive GroupStart where
  /-- Flags for the rest of the group around it. -/
  | flags (flags : Flags)
  /-- A group with the given flags, and its name if it has one. -/
  | group (flags : Flags) (name : Option String)

def readGroupStart (flags : Flags) (rest : List Char) : Option (GroupStart × List Char) :=
  match skip flags rest with
  | '?' :: '=' :: _ | '?' :: '!' :: _ | '?' :: '<' :: '=' :: _ | '?' :: '<' :: '!' :: _ => none
  | '?' :: 'P' :: '<' :: after | '?' :: '<' :: after => do
    let (name, after) ← readGroupName [] after
    pure (.group flags (some name), after)
  | '?' :: after => do
    match ← readFlags flags [] true false after with
    | (changed, seen, ')' :: after) =>
      if seen = [] then none else pure (.flags changed, after)
    | (changed, _, after) => pure (.group changed none, after.drop 1)
  | after => some (.group flags none, after)

/-- An item of a sequence.  Flags and nothing at all cannot be repeated. -/
structure Item where
  expression : Expression
  depth : Nat
  repeatable : Bool

/-- The sequence of items, given latest first. -/
def sequenceOf (items : List Item) : Expression × Nat :=
  let depth := items.foldl (fun deepest item => max deepest item.depth) 0
  let expression := items.foldl
    (fun after item =>
      match after with
      | none => some item.expression
      | some after => some (.sequence item.expression after))
    (none : Option Expression)
  (expression.getD .empty, if items.length > 1 then depth + 1 else depth)

/-- The choice between branches, given latest first. -/
def choiceOf (branches : List (Expression × Nat)) : Expression × Nat :=
  let depth := branches.foldl (fun deepest branch => max deepest branch.2) 0
  let expression := branches.foldl
    (fun after branch =>
      match after with
      | none => some branch.1
      | some after => some (.choice branch.1 after))
    (none : Option Expression)
  (expression.getD .empty, if branches.length > 1 then depth + 1 else depth)

def repeatLatest (low : Nat) (high : Option Nat) : List Item → Option (List Item)
  | [] => none
  | item :: items =>
    if item.repeatable then
      some (⟨.repeated low high item.expression, item.depth + 1, true⟩ :: items)
    else
      none

def dotSet (flags : Flags) : CodeSet :=
  if flags.dotAll then CodeSet.all
  else if flags.carriageReturn then
    (CodeSet.union (CodeSet.single '\n') (CodeSet.single '\r')).complement
  else (CodeSet.single '\n').complement

def expressionOfPrimitive? (flags : Flags) : Primitive → Option Expression
  | .literal character => (literalSet? flags character).map .oneOf
  | .set set => expressionOfSet? flags set
  | .anchor demand => some (.anchor demand)

/-- Read one character that is neither an escape nor starts a larger part. -/
def plainExpression? (flags : Flags) : Char → Option Expression
  | '.' => if flags.unicode then some (.oneOf (dotSet flags)) else none
  | '^' => some (.anchor (if flags.multiLine then .lineStart flags.carriageReturn else .textStart))
  | '$' => some (.anchor (if flags.multiLine then .lineEnd flags.carriageReturn else .textEnd))
  | character => (literalSet? flags character).map .oneOf

/-- Read the branches of a group up to the parenthesis that closes it, or to
the end of the text.  `names` are the names of groups used so far. -/
def readBranches : (fuel : Nat) → Flags → (names : List String) →
    (branches : List (Expression × Nat)) → (items : List Item) → List Char →
    Option (Read Expression × List String)
  | 0, _, _, _, _, _ => none
  | fuel + 1, flags, names, branches, items, rest =>
    let finish (rest : List Char) : Option (Read Expression × List String) :=
      let (expression, depth) := choiceOf (sequenceOf items :: branches)
      some (⟨expression, depth, rest⟩, names)
    match skip flags rest with
    | [] => finish []
    | ')' :: after => finish (')' :: after)
    | '|' :: after => readBranches fuel flags names (sequenceOf items :: branches) [] after
    | '(' :: after =>
      match readGroupStart flags after with
      | none => none
      | some (.flags changed, after) =>
        readBranches fuel changed names branches (⟨.empty, 0, false⟩ :: items) after
      | some (.group changed name, after) =>
        if name.any names.contains then
          none
        else
          match readBranches fuel changed (name.toList ++ names) [] [] after with
          | some (inner, names) =>
            match inner.rest with
            | ')' :: after =>
              let item : Item := ⟨inner.part, inner.depth + 1, true⟩
              readBranches fuel flags names branches (item :: items) after
            | _ => none
          | none => none
    | '[' :: after =>
      match readClass flags after with
      | none => none
      | some set =>
        match expressionOfSet? flags set.part with
        | some expression =>
          let item : Item := ⟨expression, set.depth, true⟩
          readBranches fuel flags names branches (item :: items) set.rest
        | none => none
    | '?' :: after =>
      match repeatLatest 0 (some 1) items with
      | some items => readBranches fuel flags names branches items (dropLazyMark after)
      | none => none
    | '*' :: after =>
      match repeatLatest 0 none items with
      | some items => readBranches fuel flags names branches items (dropLazyMark after)
      | none => none
    | '+' :: after =>
      match repeatLatest 1 none items with
      | some items => readBranches fuel flags names branches items (dropLazyMark after)
      | none => none
    | '\x7b' :: after =>
      match readBounds flags after with
      | none => none
      | some (low, high, after) =>
        match repeatLatest low high items with
        | some items =>
          readBranches fuel flags names branches items (dropLazyMark (skip flags after))
        | none => none
    | '\\' :: after =>
      match readEscape flags after with
      | none => none
      | some (primitive, after) =>
        match expressionOfPrimitive? flags primitive with
        | some expression =>
          readBranches fuel flags names branches (⟨expression, 0, true⟩ :: items) after
        | none => none
    | character :: after =>
      match plainExpression? flags character with
      | some expression =>
        readBranches fuel flags names branches (⟨expression, 0, true⟩ :: items) after
      | none => none

def nestingLimit : Nat :=
  250

def readExpression? (text : String) : Option Expression :=
  let characters := text.toList
  match readBranches (characters.length + 1) .initial [] [] [] characters with
  | some (result, _) =>
    if result.rest = [] && result.depth ≤ nestingLimit then some result.part else none
  | none => none

/-- Why a text is not accepted as a pattern. -/
inductive PatternError where
  | malformed
  | tooLarge
deriving DecidableEq, Repr

/-- How a refused pattern is explained.  What is wrong with a malformed pattern
is left to the reader of the message. -/
def PatternError.message : PatternError → String
  | .malformed => "regex parse error:"
  | .tooLarge => "Compiled regex exceeds size limit of " ++ toString sizeLimit ++ " bytes."

end Pattern

/-- A pattern with the text it was read from. -/
structure Pattern where
  text : String
  expression : Pattern.Expression
deriving Repr, Inhabited

namespace Pattern

def ofText (text : String) : Except PatternError Pattern :=
  match readExpression? text with
  | none => .error .malformed
  | some expression =>
    if expression.size > sizeLimit then .error .tooLarge else .ok ⟨text, expression⟩

def matchesText (pattern : Pattern) (text : String) : Bool :=
  pattern.expression.matchesIn text

end Pattern

end ScriptBundle
