import ScriptBundle.Script.Lexer

/-!
# Spellings of strings

A string is written as code units between quotes, some of them as escapes.
Decoding the units gives its value.  Every token that is a string has the value
that its spelling has.
-/

namespace ScriptBundle.Script

/-- Code units and the characters that they stand for.  The halves of a
surrogate pair stand for one character, and a half without a partner for the
replacement character. -/
inductive Decodes : List Nat → List Char → Prop where
  | nil : Decodes [] []
  | pair {high low : Nat} {units : List Nat} {characters : List Char}
      (isHigh : isHighUnit high = true) (isLow : isLowUnit low = true)
      (decodes : Decodes units characters) :
      Decodes (high :: low :: units)
        (Char.ofNat ((high - 0xd800) * 0x400 + (low - 0xdc00) + 0x10000) :: characters)
  | lone {unit : Nat} {units : List Nat} {characters : List Char}
      (isHalf : isHighUnit unit = true ∨ isLowUnit unit = true)
      (alone : isHighUnit unit = true → ∀ next, units.head? = some next → isLowUnit next = false)
      (decodes : Decodes units characters) : Decodes (unit :: units) ('\uFFFD' :: characters)
  | whole {unit : Nat} {units : List Nat} {characters : List Char}
      (notHigh : isHighUnit unit = false) (notLow : isLowUnit unit = false)
      (decodes : Decodes units characters) :
      Decodes (unit :: units) (Char.ofNat unit :: characters)

/-- Code units are decoded from the left, also after a first half. -/
theorem decodes_textOfUnits (units : List Nat) :
    Decodes units (textOfUnits none units) ∧
      ∀ high, isHighUnit high = true → Decodes (high :: units) (textOfUnits (some high) units) := by
  induction units with
  | nil =>
      refine ⟨.nil, ?_⟩
      intro high isHigh
      refine .lone (.inl isHigh) ?_ .nil
      rintro - next ⟨⟩
  | cons unit rest induction =>
      rcases induction with ⟨plain, afterHigh⟩
      have restDecodes : isLowUnit unit = false → ∀ lost : List Char,
          ∃ characters, Decodes (unit :: rest) characters ∧
            (if isHighUnit unit then lost ++ textOfUnits (some unit) rest
              else lost ++ Char.ofNat unit :: textOfUnits none rest) = lost ++ characters := by
        intro notLow lost
        cases isHigh : isHighUnit unit with
        | true => exact ⟨_, afterHigh unit isHigh, rfl⟩
        | false => exact ⟨_, .whole isHigh notLow plain, rfl⟩
      cases isLow : isLowUnit unit with
      | true =>
          have notHigh : isHighUnit unit = false := by
            rw [isLowUnit, Bool.and_eq_true, decide_eq_true_eq, decide_eq_true_eq] at isLow
            rw [isHighUnit, Bool.and_eq_false_iff, decide_eq_false_iff_not,
              decide_eq_false_iff_not]
            omega
          constructor
          · rw [textOfUnits, if_pos isLow]
            refine .lone (.inr isLow) ?_ plain
            intro isHigh
            rw [notHigh] at isHigh
            cases isHigh
          · intro high isHigh
            rw [textOfUnits, if_pos isLow]
            exact .pair isHigh isLow plain
      | false =>
          have notTaken : ¬ isLowUnit unit = true := by
            rw [isLow]
            exact Bool.false_ne_true
          constructor
          · rcases restDecodes isLow [] with ⟨characters, decodes, same⟩
            rw [textOfUnits, if_neg notTaken]
            exact same ▸ decodes
          · intro high isHigh
            rcases restDecodes isLow ['\uFFFD'] with ⟨characters, decodes, same⟩
            rw [textOfUnits, if_neg notTaken]
            change Decodes _ (if isHighUnit unit then ['\uFFFD'] ++ textOfUnits (some unit) rest
              else ['\uFFFD'] ++ Char.ofNat unit :: textOfUnits none rest)
            rw [same]
            refine .lone (.inl isHigh) ?_ decodes
            rintro - next ⟨⟩
            exact isLow

theorem bracedCode?_suffix {text after : List Char} {code : Nat}
    (read : bracedCode? text = some (code, after)) : after <:+ text := by
  unfold bracedCode? at read
  dsimp only at read
  split at read
  · rename_i rest closed
    have inside : rest <:+ text :=
      (List.suffix_cons _ rest).trans (closed ▸ List.dropWhile_suffix _)
    split at read
    · split at read
      · cases read
        exact inside
      · cases read
    · cases read
  · cases read

theorem unicodeCode?_suffix {text after : List Char} {code : Nat}
    (read : unicodeCode? text = some (code, after)) : after <:+ text := by
  unfold unicodeCode? at read
  split at read
  · exact (bracedCode?_suffix read).trans (List.suffix_cons _ _)
  · rcases Option.map_eq_some_iff.mp read with ⟨_, -, ⟨⟩⟩
    exact List.suffix_append [_, _, _, _] _
  · cases read

theorem byteCode?_suffix {text after : List Char} {code : Nat}
    (read : byteCode? text = some (code, after)) : after <:+ text := by
  unfold byteCode? at read
  split at read
  · rcases Option.map_eq_some_iff.mp read with ⟨_, -, ⟨⟩⟩
    exact List.suffix_append [_, _] _
  · cases read

/-- An escape is read from the start of a text. -/
theorem readEscape?_suffix {text after : List Char} {units : List Nat}
    (read : readEscape? text = some (units, after)) : after <:+ text := by
  unfold readEscape? at read
  split at read
  case h_1 => cases read
  case h_2 =>
      cases read
      exact List.suffix_append [_, _] _
  case h_9 =>
      rcases Option.map_eq_some_iff.mp read with ⟨⟨code, rest⟩, found, ⟨⟩⟩
      exact (byteCode?_suffix found).trans (List.suffix_cons _ _)
  case h_10 =>
      rcases Option.map_eq_some_iff.mp read with ⟨⟨code, rest⟩, found, ⟨⟩⟩
      exact (unicodeCode?_suffix found).trans (List.suffix_cons _ _)
  case h_11 =>
      split at read
      · cases read
      · cases read
        exact List.suffix_cons _ _
  case h_12 =>
      split at read
      · cases read
        exact List.suffix_cons _ _
      · split at read
        · cases read
        · cases read
          exact List.suffix_cons _ _
  -- the escapes of one letter
  all_goals
    cases read
    exact List.suffix_cons _ _

/-- The units of a string are read up to the quote that closes it. -/
theorem readUnits?_suffix {quote : Char} {fuel : Nat} {text after : List Char} {units : List Nat}
    (read : readUnits? quote fuel text = some (units, after)) : after <:+ text := by
  induction fuel generalizing text units with
  | zero =>
      rw [readUnits?] at read
      cases read
  | succ fuel induction =>
      unfold readUnits? at read
      split at read
      · cases read
      · cases read
      · rename_i rest same
        cases same
        rcases Option.bind_eq_some_iff.mp read with ⟨⟨first, middle⟩, escape, later⟩
        rcases Option.bind_eq_some_iff.mp later with ⟨⟨others, last⟩, inside, ⟨⟩⟩
        exact ((induction inside).trans (readEscape?_suffix escape)).trans (List.suffix_cons _ _)
      · rename_i character rest _ same
        cases same
        split at read
        · cases read
          exact List.suffix_cons _ _
        · split at read
          · cases read
          · rcases Option.bind_eq_some_iff.mp read with ⟨⟨others, last⟩, inside, ⟨⟩⟩
            exact (induction inside).trans (List.suffix_cons _ _)

/-- A spelling with its quotes, and the value that it has in some text. -/
def Spells (written value : String) : Prop :=
  ∃ quote inside units after, written.toList = quote :: inside ∧
    readUnits? quote ((inside ++ after).length + 1) (inside ++ after) = some (units, after) ∧
    Decodes units value.toList

theorem spells_of_readString? {text after : List Char} {value : String}
    (read : readString? text = some (value, after)) :
    Spells (String.ofList (text.take (text.length - after.length))) value := by
  cases text with
  | nil => cases read
  | cons quote rest =>
      rw [readString?] at read
      rcases Option.bind_eq_some_iff.mp read with ⟨⟨units, others⟩, found, ⟨⟩⟩
      rcases readUnits?_suffix found with ⟨inside, rfl⟩
      refine ⟨quote, inside, units, after, ?_, found, ?_⟩
      · rw [String.toList_ofList, List.length_cons, List.length_append, Nat.add_right_comm,
          Nat.add_sub_cancel, List.take_succ_cons, List.take_left]
      · rw [String.toList_ofList]
        exact (decodes_textOfUnits units).1

/-- A string token has the value that its spelling has. -/
def TokenKind.IsSpelled : TokenKind → Prop
  | .string written value => Spells written value
  | _ => True

@[simp]
theorem TokenKind.isSpelled_string {written value : String} :
    (TokenKind.string written value).IsSpelled ↔ Spells written value :=
  .rfl

theorem readKind?_isSpelled {text : List Char} {kind : TokenKind} {size : Nat}
    (read : readKind? text = some (kind, size)) : kind.IsSpelled := by
  unfold readKind? at read
  dsimp only at read
  split at read
  · cases read
    trivial
  · rcases Option.bind_eq_some_iff.mp read with ⟨⟨name, escaped, after⟩, -, ⟨⟩⟩
    trivial
  · cases read
    trivial
  · rcases Option.bind_eq_some_iff.mp read with ⟨⟨value, after⟩, found, ⟨⟩⟩
    exact spells_of_readString? found
  · rcases Option.bind_eq_some_iff.mp read with ⟨⟨value, after⟩, found, ⟨⟩⟩
    exact spells_of_readString? found
  · split at read
    · rcases Option.bind_eq_some_iff.mp read with ⟨ending, -, ⟨⟩⟩
      cases ending.isBig <;> trivial
    · split at read
      · rcases Option.bind_eq_some_iff.mp read with ⟨⟨name, escaped, after⟩, -, ⟨⟩⟩
        trivial
      · rcases Option.bind_eq_some_iff.mp read with ⟨mark, -, ⟨⟩⟩
        trivial

end ScriptBundle.Script
