import Mathlib.Control.Monad.Basic
import ScriptBundle.Chunk
import ScriptBundle.Loader
import ScriptBundle.Script.Lexer

/-!
# Quoted texts and their readers

A text that is written as a string literal is read back by everyone who meets
it.  Three readers are told about here: the grammar of string literals in
ECMAScript 2018, given as a relation, the tokens that scripts are read into, and
JSON.  A character is written in one of three ways, and each reader goes over
each of them to the same character; so no character ends the literal early, and
whatever text follows the literal is left alone.

The keys of the modules in a bundle and the documents that are embedded as
modules are written this way.
-/

namespace ScriptBundle

namespace Digits

theorem hex?_hexDigit {value : Nat} (small : value < 16) : hex? (hexDigit value) = some value := by
  revert value
  decide

theorem ofHex?_concat (digits : List Char) (last : Char) :
    ofHex? (digits ++ [last]) = (do
      let before ← ofHex? digits
      let next ← hex? last
      pure (before * 16 + next)) := by
  rw [ofHex?, List.foldl_append]
  rfl

/-- Padded digits spell the number as far as they reach. -/
theorem ofHex?_hexPadded (width value : Nat) :
    ofHex? (hexPadded width value) = some (value % Nat.pow 16 width) := by
  induction width generalizing value with
  | zero => exact congrArg some (Nat.mod_one value).symm
  | succ width induction =>
      have low : value % 16 < 16 := Nat.mod_lt _ (by decide)
      have split : value / 16 % Nat.pow 16 width * 16 + value % 16 =
          value % Nat.pow 16 (width + 1) := by
        have grown : Nat.pow 16 (width + 1) = 16 * Nat.pow 16 width := Nat.pow_succ'
        rw [grown, Nat.mod_mul]
        omega
      rw [hexPadded, ofHex?_concat, induction, hex?_hexDigit low]
      exact congrArg some split

theorem hexPadded_four (value : Nat) :
    ∃ first second third fourth, hexPadded 4 value = [first, second, third, fourth] :=
  ⟨_, _, _, _, rfl⟩

theorem ofHex?_brace (digits : List Char) : ofHex? ('\x7b' :: digits) = none := by
  rw [ofHex?, List.foldl_cons]
  induction digits with
  | nil => rfl
  | cons digit rest induction => exact induction

end Digits

namespace Script

/-- The code units of a code point in UTF-16. -/
def utf16 (code : Nat) : List Nat :=
  if code < 0x10000 then [code]
  else [0xd800 + (code - 0x10000) / 0x400, 0xdc00 + (code - 0x10000) % 0x400]

def unitsOf (character : Char) : List Nat :=
  utf16 character.toNat

/-- The code units of a text: the string that it is for a script. -/
def unitsOfText (text : String) : List Nat :=
  text.toList.flatMap unitsOf

theorem toNat_valid (character : Char) :
    character.toNat < 0xd800 ∨ 0xdfff < character.toNat ∧ character.toNat < 0x110000 :=
  character.valid

theorem textOfUnits_whole (character : Char) (rest : List Nat) :
    textOfUnits none (character.toNat :: rest) = character :: textOfUnits none rest := by
  have valid := toNat_valid character
  have notLow : isLowUnit character.toNat = false := by
    rw [isLowUnit, Bool.and_eq_false_iff, decide_eq_false_iff_not, decide_eq_false_iff_not]
    omega
  have notHigh : isHighUnit character.toNat = false := by
    rw [isHighUnit, Bool.and_eq_false_iff, decide_eq_false_iff_not, decide_eq_false_iff_not]
    omega
  rw [textOfUnits, notLow, notHigh, Char.ofNat_toNat]
  rfl

theorem textOfUnits_unitsOf (character : Char) (rest : List Nat) :
    textOfUnits none (unitsOf character ++ rest) = character :: textOfUnits none rest := by
  rw [unitsOf, utf16]
  split
  · exact textOfUnits_whole character rest
  · next large =>
    have valid := toNat_valid character
    have notLow : isLowUnit (0xd800 + (character.toNat - 0x10000) / 0x400) = false := by
      rw [isLowUnit, Bool.and_eq_false_iff, decide_eq_false_iff_not, decide_eq_false_iff_not]
      omega
    have isHigh : isHighUnit (0xd800 + (character.toNat - 0x10000) / 0x400) = true := by
      rw [isHighUnit, Bool.and_eq_true, decide_eq_true_eq, decide_eq_true_eq]
      omega
    have isLow : isLowUnit (0xdc00 + (character.toNat - 0x10000) % 0x400) = true := by
      rw [isLowUnit, Bool.and_eq_true, decide_eq_true_eq, decide_eq_true_eq]
      omega
    have joined : (0xd800 + (character.toNat - 0x10000) / 0x400 - 0xd800) * 0x400 +
        (0xdc00 + (character.toNat - 0x10000) % 0x400 - 0xdc00) + 0x10000 = character.toNat := by
      omega
    rw [List.cons_append, List.singleton_append, textOfUnits, notLow, isHigh,
      if_neg Bool.false_ne_true, if_pos rfl, Option.toList_none, List.map_nil, List.nil_append,
      textOfUnits, isLow, if_pos rfl, joined, Char.ofNat_toNat]

theorem textOfUnits_unitsOfText (text : String) :
    textOfUnits none (unitsOfText text) = text.toList := by
  rw [unitsOfText]
  induction text.toList with
  | nil => rfl
  | cons character rest induction =>
      rw [List.flatMap_cons, textOfUnits_unitsOf, induction]

/-- Different texts are different strings for a script. -/
theorem unitsOfText_inj {first second : String} :
    unitsOfText first = unitsOfText second ↔ first = second := by
  constructor
  · intro same
    apply String.toList_inj.mp
    rw [← textOfUnits_unitsOfText, same, textOfUnits_unitsOfText]
  · rintro rfl
    rfl

theorem textOfUnits_toNat (text : List Char) : textOfUnits none (text.map Char.toNat) = text := by
  induction text with
  | nil => rfl
  | cons character rest induction => rw [List.map_cons, textOfUnits_whole, induction]

/-- The code unit that an escape of one letter stands for. -/
def letterUnit? : Char → Option Nat
  | '\'' => some 0x27
  | '"' => some 0x22
  | '\\' => some 0x5c
  | 'b' => some 0x08
  | 'f' => some 0x0c
  | 'n' => some 0x0a
  | 'r' => some 0x0d
  | 't' => some 0x09
  | 'v' => some 0x0b
  | _ => none

/-- An escape behind its backslash, the code units it stands for, and what
follows it (ECMAScript 2018, `EscapeSequence` and `LineContinuation`). -/
inductive Escape : List Char → List Nat → List Char → Prop where
  | letter {letter : Char} {unit : Nat} {rest : List Char}
      (known : letterUnit? letter = some unit) : Escape (letter :: rest) [unit] rest
  | other {character : Char} {rest : List Char} (unknown : letterUnit? character = none)
      (noDigit : Digits.isDecimal character = false) (notByte : character ≠ 'x')
      (notUnit : character ≠ 'u') (noLineEnd : isLineEnd character = false) :
      Escape (character :: rest) (unitsOf character) rest
  | zero {rest : List Char} (alone : (rest.head?).any Digits.isDecimal = false) :
      Escape ('0' :: rest) [0] rest
  | byte {first second : Char} {rest : List Char} {code : Nat}
      (spelled : Digits.ofHex? [first, second] = some code) :
      Escape ('x' :: first :: second :: rest) [code] rest
  | unit {first second third fourth : Char} {rest : List Char} {code : Nat}
      (spelled : Digits.ofHex? [first, second, third, fourth] = some code) :
      Escape ('u' :: first :: second :: third :: fourth :: rest) [code] rest
  | point {text digits rest : List Char} {code : Nat}
      (braced : text = '\x7b' :: digits ++ '\x7d' :: rest) (filled : digits ≠ [])
      (spelled : Digits.ofHex? digits = some code) (small : code ≤ 0x10ffff) :
      Escape ('u' :: text) (utf16 code) rest
  | line {lineEnd : Char} {rest : List Char} (ends : isLineEnd lineEnd = true)
      (notPaired : lineEnd = '\r' → rest.head? ≠ some '\n') : Escape (lineEnd :: rest) [] rest
  | linePair {rest : List Char} : Escape ('\r' :: '\n' :: rest) [] rest

/-- A text behind an opening double quote, the code units up to the closing one,
and what follows that (ECMAScript 2018, `DoubleStringCharacters`).  No line end
of any kind stands for itself. -/
inductive Inside : List Char → List Nat → List Char → Prop where
  | close {after : List Char} : Inside ('"' :: after) [] after
  | plain {character : Char} {rest after : List Char} {units : List Nat}
      (notQuote : character ≠ '"') (notBackslash : character ≠ '\\')
      (noLineEnd : isLineEnd character = false) (further : Inside rest units after) :
      Inside (character :: rest) (unitsOf character ++ units) after
  | escaped {rest middle after : List Char} {value units : List Nat}
      (escape : Escape rest value middle) (further : Inside middle units after) :
      Inside ('\\' :: rest) (value ++ units) after

/-- A text starts with a double-quoted string of some code units; `after` is
left behind it. -/
def ReadsString (text : List Char) (units : List Nat) (after : List Char) : Prop :=
  ∃ behind, text = '"' :: behind ∧ Inside behind units after

/-- A literal is one string token, whatever text follows it, and has a text for
its value. -/
def Denotes (literal value : String) : Prop :=
  ∀ following units after, ReadsString (literal.toList ++ following) units after ↔
    units = unitsOfText value ∧ after = following

end Script

/-! ## How characters are written -/

namespace Literal

/-- The characters with an escape of one letter, each with its letter. -/
def letters : List (Char × Char) :=
  [('"', '"'), ('\\', '\\'), ('\n', 'n'), ('\r', 'r'), ('\t', 't')]

/-- A character is written as itself, by an escape of one letter, or by its
code. -/
inductive Written : Char → List Char → Prop where
  | itself {character : Char} (notQuote : character ≠ '"') (notBackslash : character ≠ '\\')
      (noLineEnd : Script.isLineEnd character = false) (shown : ¬ character.toNat < 0x20) :
      Written character [character]
  | letter {character letter : Char} (paired : (character, letter) ∈ letters) :
      Written character ['\\', letter]
  | code {character first second third fourth : Char} (small : character.toNat < 0xd800)
      (spelled : Digits.ofHex? [first, second, third, fourth] = some character.toNat) :
      Written character ['\\', 'u', first, second, third, fourth]

theorem written_escape (character : Char) : Written character (escape character) := by
  rw [escape]
  split
  · next same => exact .letter (by simp [same, letters])
  split
  · next same => exact .letter (by simp [same, letters])
  split
  · next same => exact .letter (by simp [same, letters])
  split
  · next same => exact .letter (by simp [same, letters])
  split
  · next same => exact .letter (by simp [same, letters])
  split
  · next hidden =>
    simp only [Bool.or_eq_true, decide_eq_true_eq] at hidden
    rcases Digits.hexPadded_four character.toNat with ⟨first, second, third, fourth, digits⟩
    have small : character.toNat < 0xd800 := by omega
    have spelled := Digits.ofHex?_hexPadded 4 character.toNat
    rw [digits, Nat.mod_eq_of_lt (Nat.lt_trans small (by decide))] at spelled
    rw [unicodeEscape, digits]
    exact .code small spelled
  · next notQuote notBackslash notFeed notReturn _ shown =>
    simp only [Bool.or_eq_true, decide_eq_true_eq, not_or] at shown
    refine .itself notQuote notBackslash ?_ shown.1.1
    have notSeparator : character ≠ '\u2028' := fun same => shown.1.2 (by rw [same]; rfl)
    have notParagraph : character ≠ '\u2029' := fun same => shown.2 (by rw [same]; rfl)
    simp [Script.isLineEnd, notFeed, notReturn, notSeparator, notParagraph]

theorem Written.length_pos {character : Char} {written : List Char}
    (writes : Written character written) : 0 < written.length := by
  cases writes <;> exact Nat.succ_pos _

theorem length_le_length_flatMap_escape (characters : List Char) :
    characters.length ≤ (characters.flatMap escape).length := by
  induction characters with
  | nil => exact Nat.le_refl 0
  | cons character rest induction =>
      have positive := (written_escape character).length_pos
      rw [List.flatMap_cons, List.length_append, List.length_cons]
      omega

/-- The inside of a literal is no shorter than the text, so fuel for the one is
fuel for the other. -/
theorem length_lt_inside (characters following : List Char) :
    characters.length < (characters.flatMap escape ++ '"' :: following).length + 1 := by
  have long := length_le_length_flatMap_escape characters
  rw [List.length_append]
  omega

theorem toList_quote_append (text : String) (following : List Char) :
    (quote text).toList ++ following =
      '"' :: (text.toList.flatMap escape ++ '"' :: following) := by
  simp [quote, quoteChars]

end Literal

namespace Script

variable {rest after : List Char} {units value : List Nat} {character letter : Char}
  {unit code : Nat}

theorem letterUnit?_of_isLineEnd (ends : isLineEnd character = true) :
    letterUnit? character = none := by
  simp only [isLineEnd, Bool.or_eq_true, decide_eq_true_eq] at ends
  rcases ends with ((rfl | rfl) | rfl) | rfl <;> rfl

/-- An escape of one letter is nothing else. -/
theorem escape_letter_iff (known : letterUnit? letter = some unit) :
    Escape (letter :: rest) value after ↔ value = [unit] ∧ after = rest := by
  constructor
  · intro escape
    cases escape with
    | letter again =>
        rw [known] at again
        cases again
        exact ⟨rfl, rfl⟩
    | other unknown =>
        rw [known] at unknown
        cases unknown
    | line ends =>
        rw [letterUnit?_of_isLineEnd ends] at known
        cases known
    -- No digit, `x` or `u` is an escape of one letter.
    | _ => cases known
  · rintro ⟨rfl, rfl⟩
    exact .letter known

/-- An escape of four digits is nothing else. -/
theorem escape_unit_iff {first second third fourth : Char}
    (spelled : Digits.ofHex? [first, second, third, fourth] = some code) :
    Escape ('u' :: first :: second :: third :: fourth :: rest) value after ↔
      value = [code] ∧ after = rest := by
  constructor
  · intro escape
    cases escape with
    | letter known => cases known
    | other _ _ _ notUnit => exact absurd rfl notUnit
    | unit again =>
        rw [spelled] at again
        cases again
        exact ⟨rfl, rfl⟩
    -- A brace is no digit.
    | point braced =>
        rw [(List.cons.inj braced).1, Digits.ofHex?_brace] at spelled
        cases spelled
    | line ends => cases ends
  · rintro ⟨rfl, rfl⟩
    exact .unit spelled

theorem inside_plain_iff (notQuote : character ≠ '"') (notBackslash : character ≠ '\\')
    (noLineEnd : isLineEnd character = false) :
    Inside (character :: rest) units after ↔
      ∃ others, units = unitsOf character ++ others ∧ Inside rest others after := by
  constructor
  · rintro (_ | ⟨_, _, _, further⟩ | _)
    · exact absurd rfl notQuote
    · exact ⟨_, rfl, further⟩
    · exact absurd rfl notBackslash
  · rintro ⟨others, rfl, further⟩
    exact .plain notQuote notBackslash noLineEnd further

theorem inside_escaped_iff {behind : List Char}
    (escape : ∀ value middle, Escape rest value middle ↔ value = [code] ∧ middle = behind) :
    Inside ('\\' :: rest) units after ↔
      ∃ others, units = [code] ++ others ∧ Inside behind others after := by
  constructor
  · intro inside
    cases inside with
    | plain _ notBackslash => exact absurd rfl notBackslash
    | escaped read further =>
        rcases (escape _ _).mp read with ⟨rfl, rfl⟩
        exact ⟨_, rfl, further⟩
  · rintro ⟨others, rfl, further⟩
    exact .escaped ((escape _ _).mpr ⟨rfl, rfl⟩) further

theorem inside_quote_iff : Inside ('"' :: rest) units after ↔ units = [] ∧ after = rest := by
  constructor
  · intro inside
    cases inside with
    | close => exact ⟨rfl, rfl⟩
    | plain notQuote => exact absurd rfl notQuote
  · rintro ⟨rfl, rfl⟩
    exact .close

theorem unitsOf_of_lt (small : character.toNat < 0xd800) :
    unitsOf character = [character.toNat] := by
  rw [unitsOf, utf16, if_pos (by omega)]

theorem letterUnit?_of_paired : ∀ pair ∈ Literal.letters,
    letterUnit? pair.2 = some pair.1.toNat ∧ pair.1.toNat < 0xd800 := by
  decide

/-- However a character is written, it is read as that character. -/
theorem inside_written_iff {written : List Char} (writes : Literal.Written character written) :
    Inside (written ++ rest) units after ↔
      ∃ others, units = unitsOf character ++ others ∧ Inside rest others after := by
  cases writes with
  | itself notQuote notBackslash noLineEnd => exact inside_plain_iff notQuote notBackslash noLineEnd
  | letter paired =>
      rcases letterUnit?_of_paired _ paired with ⟨known, small⟩
      rw [unitsOf_of_lt small]
      exact inside_escaped_iff fun value middle => escape_letter_iff known
  | code small spelled =>
      rw [unitsOf_of_lt small]
      exact inside_escaped_iff fun value middle => escape_unit_iff spelled

theorem inside_quoteChars_iff (characters following : List Char) :
    Inside (characters.flatMap Literal.escape ++ '"' :: following) units after ↔
      units = characters.flatMap unitsOf ∧ after = following := by
  induction characters generalizing units with
  | nil => exact inside_quote_iff
  | cons character rest induction =>
      rw [List.flatMap_cons, List.append_assoc,
        inside_written_iff (Literal.written_escape character)]
      simp only [induction, List.flatMap_cons]
      constructor
      · rintro ⟨others, rfl, rfl, rfl⟩
        exact ⟨rfl, rfl⟩
      · rintro ⟨rfl, rfl⟩
        exact ⟨_, rfl, rfl, rfl⟩

/-- A quoted text is one string token whose value is the text. -/
theorem denotes_quote (text : String) : Denotes (Literal.quote text) text := by
  intro following units after
  rw [unitsOfText, ← inside_quoteChars_iff text.toList following, Literal.toList_quote_append]
  constructor
  · rintro ⟨behind, opened, inside⟩
    rw [(List.cons.inj opened).2]
    exact inside
  · intro inside
    exact ⟨_, rfl, inside⟩

theorem readEscape?_of_paired {pair : Char × Char} (paired : pair ∈ Literal.letters)
    (rest : List Char) : readEscape? (pair.2 :: rest) = some ([pair.1.toNat], rest) := by
  simp only [Literal.letters, List.mem_cons, List.not_mem_nil, or_false] at paired
  rcases paired with rfl | rfl | rfl | rfl | rfl <;> rfl

theorem readEscape?_unit {first second third fourth : Char}
    (spelled : Digits.ofHex? [first, second, third, fourth] = some code) (rest : List Char) :
    readEscape? ('u' :: first :: second :: third :: fourth :: rest) = some ([code], rest) := by
  have read : unicodeCode? (first :: second :: third :: fourth :: rest) = some (code, rest) := by
    rw [unicodeCode?, spelled]
    · rfl
    · rintro rfl
      rw [Digits.ofHex?_brace] at spelled
      cases spelled
  rw [readEscape?, read]
  rfl

theorem readUnits?_escaped {behind : List Char} (read : readEscape? rest = some ([code], behind))
    (fuel : Nat) : readUnits? '"' (fuel + 1) ('\\' :: rest) =
      (readUnits? '"' fuel behind).map fun (others, after) => (code :: others, after) := by
  rw [readUnits?, read, Option.bind_eq_bind, Option.bind_some]
  dsimp only
  cases readUnits? '"' fuel behind <;> rfl

/-- However a character is written, a token reads it as that character. -/
theorem readUnits?_written {written : List Char} (writes : Literal.Written character written)
    (fuel : Nat) (rest : List Char) : readUnits? '"' (fuel + 1) (written ++ rest) =
      (readUnits? '"' fuel rest).map fun (others, after) => (character.toNat :: others, after) := by
  cases writes with
  | itself notQuote notBackslash noLineEnd =>
      have notFeed : character ≠ '\n' := by
        rintro rfl
        cases noLineEnd
      have notReturn : character ≠ '\r' := by
        rintro rfl
        cases noLineEnd
      rw [List.singleton_append, readUnits?]
      · simp only [notQuote, notFeed, notReturn, decide_false, Bool.or_false, if_false,
          Bool.false_eq_true]
        cases readUnits? '"' fuel rest <;> rfl
      · exact fun same => notBackslash same
  | letter paired => exact readUnits?_escaped (readEscape?_of_paired paired rest) fuel
  | code _ spelled => exact readUnits?_escaped (readEscape?_unit spelled rest) fuel

theorem readUnits?_quoteChars {fuel : Nat} (characters following : List Char)
    (enough : characters.length < fuel) :
    readUnits? '"' fuel (characters.flatMap Literal.escape ++ '"' :: following) =
      some (characters.map Char.toNat, following) := by
  induction characters generalizing fuel with
  | nil =>
      obtain ⟨fuel, rfl⟩ := Nat.exists_eq_add_of_lt enough
      rfl
  | cons character rest induction =>
      cases fuel with
      | zero => cases enough
      | succ fuel =>
          rw [List.flatMap_cons, List.append_assoc,
            readUnits?_written (Literal.written_escape character),
            induction (Nat.lt_of_succ_lt_succ enough)]
          rfl

theorem readString?_quote (text : String) (following : List Char) :
    readString? ((Literal.quote text).toList ++ following) = some (text, following) := by
  rw [Literal.toList_quote_append, readString?,
    readUnits?_quoteChars _ _ (Literal.length_lt_inside text.toList following),
    Option.bind_eq_bind, Option.bind_some]
  dsimp only
  rw [textOfUnits_toNat, String.ofList_toList]
  rfl

/-- The token at a quoted text is a string of that text, whatever follows. -/
theorem readKind?_quote (text : String) (following : List Char) :
    readKind? ((Literal.quote text).toList ++ following) =
      some (.string (Literal.quote text) text, (Literal.quote text).length) := by
  have read := readString?_quote text following
  have size : ((Literal.quote text).toList ++ following).length - following.length =
      (Literal.quote text).toList.length := by
    rw [List.length_append, Nat.add_sub_cancel]
  have taken : ((Literal.quote text).toList ++ following).take (Literal.quote text).toList.length =
      (Literal.quote text).toList := List.take_left
  rw [Literal.toList_quote_append] at read size taken ⊢
  rw [readKind?, read, Option.bind_eq_bind, Option.bind_some]
  dsimp only
  rw [size, taken, String.ofList_toList, String.length_toList]
  rfl

end Script

/-! ## Reading as JSON -/

namespace Json

variable {character : Char} {rest : List Char} {code : Nat}

theorem readHexDigits_four {first second third fourth : Char}
    (spelled : Digits.ofHex? [first, second, third, fourth] = some code) (rest : List Char)
    (position : Position) : ∃ later,
      readHexDigits ⟨first :: second :: third :: fourth :: rest, position⟩ =
        .ok (code, ⟨rest, later⟩) := by
  have firstBytes := Char.utf8Size_pos first
  have secondBytes := Char.utf8Size_pos second
  have thirdBytes := Char.utf8Size_pos third
  have fourthBytes := Char.utf8Size_pos fourth
  have taken : (first :: second :: third :: fourth :: rest).take 4 =
      [first, second, third, fourth] := rfl
  have enough : ¬ [first, second, third, fourth].foldl
      (fun total character => total + character.utf8Size) 0 < 4 := by
    simp only [List.foldl_cons, List.foldl_nil]
    omega
  rw [readHexDigits]
  simp only [taken, if_neg enough, spelled]
  exact ⟨_, rfl⟩

theorem readCodeEscape_four {first second third fourth : Char}
    (spelled : Digits.ofHex? [first, second, third, fourth] = some character.toNat)
    (small : character.toNat < 0xd800) (rest : List Char) (position : Position) : ∃ later,
      readCodeEscape ⟨first :: second :: third :: fourth :: rest, position⟩ =
        .ok (character, ⟨rest, later⟩) := by
  rcases readHexDigits_four spelled rest position with ⟨later, read⟩
  have notLow : ¬ (0xdc00 ≤ character.toNat ∧ character.toNat ≤ 0xdfff) := by omega
  refine ⟨later, ?_⟩
  rw [readCodeEscape, read]
  simp [notLow, small, bind, Except.bind, pure, Except.pure]

/-- However a character is written, JSON reads it as that character. -/
theorem readTextStep_written {written : List Char} (writes : Literal.Written character written)
    (rest : List Char) (position : Position) :
    ∃ later, readTextStep ⟨written ++ rest, position⟩ = .ok (some character, ⟨rest, later⟩) := by
  cases writes with
  | itself notQuote notBackslash _ shown =>
      refine ⟨(Cursor.next ⟨character :: rest, position⟩).position, ?_⟩
      rw [List.singleton_append, readTextStep]
      simp [Cursor.peek?, shown, Cursor.next]
  | letter paired =>
      simp only [Literal.letters, List.mem_cons, List.not_mem_nil, or_false, Prod.mk.injEq]
        at paired
      rcases paired with ⟨rfl, rfl⟩ | ⟨rfl, rfl⟩ | ⟨rfl, rfl⟩ | ⟨rfl, rfl⟩ | ⟨rfl, rfl⟩ <;>
        exact ⟨_, rfl⟩
  | @code first second third fourth small spelled =>
      let place := Cursor.placeAfter (Cursor.placeAfter position '\\' 1) 'u' 1
      rcases readCodeEscape_four spelled small rest place with ⟨later, read⟩
      refine ⟨later, ?_⟩
      calc readTextStep ⟨'\\' :: 'u' :: first :: second :: third :: fourth :: rest, position⟩
        _ = readCodeEscape ⟨first :: second :: third :: fourth :: rest, place⟩ >>=
              fun found => pure (some found.1, found.2) := rfl
        _ = .ok (some character, ⟨rest, later⟩) := by
          rw [read]
          rfl

theorem readTextLoop_quoteChars {fuel : Nat} (read characters following : List Char)
    (enough : characters.length < fuel) (position : Position) : ∃ later,
      readTextLoop fuel read ⟨characters.flatMap Literal.escape ++ '"' :: following, position⟩ =
        .ok (String.ofList (read.reverse ++ characters), ⟨following, later⟩) := by
  induction characters generalizing fuel read position with
  | nil =>
      obtain ⟨fuel, rfl⟩ := Nat.exists_eq_add_of_lt enough
      refine ⟨Cursor.placeAfter position '"' 1, ?_⟩
      rw [List.append_nil]
      rfl
  | cons character rest induction =>
      cases fuel with
      | zero => cases enough
      | succ fuel =>
          rw [List.flatMap_cons, List.append_assoc, readTextLoop]
          rcases readTextStep_written (Literal.written_escape character)
            (rest.flatMap Literal.escape ++ '"' :: following) position with ⟨middle, step⟩
          rcases induction (character :: read) (Nat.lt_of_succ_lt_succ enough) middle with
            ⟨later, others⟩
          refine ⟨later, ?_⟩
          rw [step]
          refine others.trans ?_
          rw [List.reverse_cons, List.append_assoc, List.singleton_append]

theorem readDocument_quote (depth line column : Nat) (rest : List Char) :
    readDocument depth ⟨'"' :: rest, ⟨line, column⟩⟩ =
      scalarDocument (readText ⟨rest, ⟨line, column + 1⟩⟩ >>= fun (text, after) =>
        pure (.text text, after)) := by
  cases depth <;> rw [readDocument] <;> rfl

/-- The value of a quoted text is the text. -/
theorem valueOfText_quote (text : String) :
    valueOfText (Literal.quote text) = .ok (.text text) := by
  have shape : (Literal.quote text).toList =
      '"' :: (text.toList.flatMap Literal.escape ++ ['"']) := by
    simpa using Literal.toList_quote_append text []
  rcases readTextLoop_quoteChars [] text.toList [] (Literal.length_lt_inside text.toList [])
    ⟨1, 1⟩ with ⟨later, read⟩
  have document : readDocument nestingLimit (Cursor.ofText (Literal.quote text)) =
      (.scalar (.text text) (some later), some ⟨[], later⟩) := by
    rw [Cursor.ofText, shape, readDocument_quote, readText, read, List.reverse_nil,
      List.nil_append, String.ofList_toList]
    rfl
  rw [valueOfText, documentOfText, document]
  rfl

end Json

namespace Chunk

/-- An item of the registry is a property whose name is a string of some code
units. -/
def HasKey (item : String) (key : List Nat) : Prop :=
  ∃ property function, item.toList = ' ' :: ' ' :: ' ' :: ' ' :: property ∧
    Script.ReadsString property key (':' :: function)

/-- The key of a module is its identifier. -/
theorem hasKey_registryItem_iff {member : Module} {key : List Nat} :
    HasKey (registryItem member) key ↔ key = Script.unitsOfText member.id := by
  have shape : (registryItem member).toList = ' ' :: ' ' :: ' ' :: ' ' ::
      ((Literal.quote member.id).toList ++ ':' :: (" (module, exports, require) => \x7b\n" ++
        Text.trimEnd member.source ++ "\n    \x7d").toList) := by
    simp [registryItem]
  rw [HasKey, shape]
  constructor
  · rintro ⟨property, function, same, reads⟩
    simp only [List.cons.injEq, true_and] at same
    rw [← same] at reads
    exact ((Script.denotes_quote _ _ _ _).mp reads).1
  · intro same
    exact ⟨_, _, rfl, (Script.denotes_quote _ _ _ _).mpr ⟨same, rfl⟩⟩

/-- Modules with different identifiers have different keys. -/
theorem sharedKey_iff {first second : Module} :
    (∃ key, HasKey (registryItem first) key ∧ HasKey (registryItem second) key) ↔
      first.id = second.id := by
  simp only [hasKey_registryItem_iff]
  rw [← Script.unitsOfText_inj]
  constructor
  · rintro ⟨key, rfl, same⟩
    exact same
  · intro same
    exact ⟨_, rfl, same⟩

end Chunk

namespace Literal

/-- A document is a source without the byte order mark that may stand at its
start. -/
def IsUnmarked (source document : String) : Prop :=
  source.toList = byteOrderMark :: document.toList ∨
    source = document ∧ source.toList.head? ≠ some byteOrderMark

theorem isUnmarked_withoutMark (source : String) : IsUnmarked source (withoutMark source) := by
  rw [IsUnmarked, withoutMark, String.toList_ofList]
  cases shape : source.toList with
  | nil => exact .inr ⟨by rw [dropMark, ← shape, String.ofList_toList], by simp⟩
  | cons first rest =>
      rw [dropMark]
      by_cases marked : first = byteOrderMark
      · rw [if_pos marked, marked]
        exact .inl rfl
      · rw [if_neg marked, ← shape, String.ofList_toList]
        exact .inr ⟨rfl, by simpa [shape] using marked⟩

/-- The module of a JSON document parses a literal of the document. -/
theorem json_transform_ok {source output : String} {path : Path}
    (accepted : Loader.json.transform source path = .ok output) :
    output = jsonModule (withoutMark source) := by
  simp only [Loader.json] at accepted
  split at accepted
  · exact (Except.ok.inj accepted).symm
  · cases accepted

/-- The literal of a text stands for the text: it is one string token for the
grammar of scripts and for the reader of tokens, whatever text follows, and its
value is the text, as it is when the literal is read as JSON.  So modules share
a key of the registry only if they share their identifier, and a module that is
made of a JSON document parses one literal, of the document without its mark. -/
theorem quote_faithful (text : String) :
    Script.Denotes (quote text) text ∧
      (∀ following, Script.readKind? ((quote text).toList ++ following) =
        some (.string (quote text) text, (quote text).length)) ∧
      Json.valueOfText (quote text) = .ok (.text text) ∧
      (∀ member key, Chunk.HasKey (Chunk.registryItem member) key ↔
        key = Script.unitsOfText member.id) ∧
      (∀ first second, (∃ key, Chunk.HasKey (Chunk.registryItem first) key ∧
        Chunk.HasKey (Chunk.registryItem second) key) ↔ first.id = second.id) ∧
      ∀ source path output, Loader.json.transform source path = .ok output →
        ∃ literal document, output = "module.exports = JSON.parse(" ++ literal ++ ");" ∧
          Script.Denotes literal document ∧ IsUnmarked source document := by
  refine ⟨Script.denotes_quote text, Script.readKind?_quote text, Json.valueOfText_quote text,
    fun member key => Chunk.hasKey_registryItem_iff, fun first second => Chunk.sharedKey_iff, ?_⟩
  intro source path output accepted
  exact ⟨quote (withoutMark source), withoutMark source, json_transform_ok accepted,
    Script.denotes_quote _, isUnmarked_withoutMark source⟩

/-- A document with a mark, a line separator and an escaped quote is embedded
with all of them written as escapes. -/
theorem quote_faithful_document :
    Loader.json.transform "\uFEFF[\"\u2028\\\"\"]" ⟨"/work/a.json"⟩ =
        .ok "module.exports = JSON.parse(\"[\\\"\\u2028\\\\\\\"\\\"]\");" ∧
      ∃ literal document,
        "module.exports = JSON.parse(\"[\\\"\\u2028\\\\\\\"\\\"]\");" =
          "module.exports = JSON.parse(" ++ literal ++ ");" ∧
        Script.Denotes literal document ∧ IsUnmarked "\uFEFF[\"\u2028\\\"\"]" document := by
  have accepted : Loader.json.transform "\uFEFF[\"\u2028\\\"\"]" ⟨"/work/a.json"⟩ =
      .ok "module.exports = JSON.parse(\"[\\\"\\u2028\\\\\\\"\\\"]\");" := by
    decide +kernel
  rcases quote_faithful "" with ⟨-, -, -, -, -, embedded⟩
  exact ⟨accepted, embedded _ _ _ accepted⟩

end Literal

end ScriptBundle
