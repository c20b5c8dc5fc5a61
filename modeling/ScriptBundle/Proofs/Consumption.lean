import ScriptBundle.Proofs.Placement
import ScriptBundle.Script.Grammar.Program

/-!
# How readers go on in the text

A reader of grammar goes from the token at hand to one that stands behind it.
What it takes on the way stands between the start of the first token and the
end of the last one that it took.

What a reader reads is told by the state before and the state after it.  So a
reader that is put together from others is opened into what these read, one
after the other.
-/

namespace ScriptBundle.Script

/-- Blanks and comments before a token only lead on. -/
theorem readGap?_position_le {previous : TokenKind} {fuel : Nat} {gap after : Gap}
    (read : readGap? previous fuel gap = some after) :
    gap.after.position ≤ after.after.position := by
  induction fuel generalizing gap with
  | zero => cases read
  | succ fuel induction =>
      rw [readGap?] at read
      split at read
      · have later := induction read
        unfold Gap.addComment at later
        split at later <;> exact Nat.le_trans (Nat.le_add_right _ _) later
      · split at read
        · cases read
        · have later := induction read
          unfold Gap.addComment at later
          split at later <;> exact Nat.le_trans (Nat.le_add_right _ _) later
      · cases read
      · split at read
        · cases read
        · cases read
          exact Nat.le_refl _
      · split at read
        · exact Nat.le_trans (Nat.le_add_right _ _) (induction read)
        · split at read
          · exact Nat.le_trans (Nat.le_add_right _ _) (induction read)
          · cases read
            exact Nat.le_refl _
      · cases read
        exact Nat.le_refl _

/-- No mark is empty. -/
theorem readMark?_length_pos {text : List Char} {mark : String}
    (read : readMark? text = some mark) : 0 < mark.length := by
  have positive : ∀ mark ∈ "?" :: marks, 0 < mark.length := by decide +kernel
  rw [readMark?] at read
  split at read
  · cases read
    exact positive _ List.mem_cons_self
  · exact positive _ (List.mem_cons_of_mem _ (List.mem_of_find?_eq_some read))

/-- A mark takes as many characters as it has. -/
theorem readKind?_mark {text : List Char} {mark : String} {size : Nat}
    (read : readKind? text = some (.mark mark, size)) : 0 < size := by
  unfold readKind? at read
  dsimp only at read
  split at read
  · cases read
  · rcases Option.bind_eq_some_iff.mp read with ⟨_, -, ⟨⟩⟩
  · cases read
    exact Nat.one_pos
  · rcases Option.bind_eq_some_iff.mp read with ⟨_, -, ⟨⟩⟩
  · rcases Option.bind_eq_some_iff.mp read with ⟨_, -, ⟨⟩⟩
  · split at read
    · rcases Option.bind_eq_some_iff.mp read with ⟨ending, -, same⟩
      cases isBig : ending.isBig <;> simp [isBig] at same
    · split at read
      · rcases Option.bind_eq_some_iff.mp read with ⟨_, -, ⟨⟩⟩
      · rcases Option.bind_eq_some_iff.mp read with ⟨_, found, ⟨⟩⟩
        exact readMark?_length_pos found

/-- A token ends behind its start, and a mark is not empty.  A string has the value
that it spells. -/
structure Token.Sound (token : Token) : Prop where
  forward : token.start ≤ token.finish
  filled : ∀ text, token.kind = .mark text → token.start < token.finish
  spelled : token.kind.IsSpelled

/-- A token stands behind the cursor that it is read from. -/
theorem readToken?_sound {previous : TokenKind} {hasLineEnd : Bool} {cursor : Cursor}
    {token : Token} (read : readToken? previous hasLineEnd cursor = some token) :
    token.Sound ∧ cursor.position ≤ token.start := by
  rw [readToken?] at read
  rcases Option.bind_eq_some_iff.mp read with ⟨gap, gapRead, later⟩
  rcases Option.bind_eq_some_iff.mp later with ⟨⟨kind, size⟩, found, ⟨⟩⟩
  refine ⟨⟨Nat.le_add_right _ _, ?_, readKind?_isSpelled found⟩, readGap?_position_le gapRead⟩
  intro text isMark
  dsimp only at isMark
  subst isMark
  exact Nat.lt_add_of_pos_right (readKind?_mark found)

namespace ReadState

variable {before after : ReadState}

/-- The token at hand stands behind the last one that was taken. -/
structure Sound (state : ReadState) : Prop where
  token : state.token.Sound
  behind : state.lastFinish ≤ state.token.start

/-- A state that is reached by going on in the text. -/
structure Leads (before after : ReadState) : Prop where
  sound : after.Sound
  last : before.lastFinish ≤ after.lastFinish
  start : before.token.start ≤ after.token.start

theorem Leads.refl (sound : before.Sound) : before.Leads before :=
  ⟨sound, Nat.le_refl _, Nat.le_refl _⟩

/-- What is reached from a state that is reached is reached. -/
theorem Leads.trans {middle : ReadState} (first : before.Leads middle)
    (later : middle.Leads after) : before.Leads after :=
  ⟨later.sound, Nat.le_trans first.last later.last, Nat.le_trans first.start later.start⟩

/-- The token that is at hand once the one at hand now is taken. -/
def following (state : ReadState) : Token :=
  (readToken? state.token.kind false state.token.after).getD
    { state.token with kind := .finish, here := state.token.after }

end ReadState

namespace Reader

variable {Part Next : Type} {before after : ReadState}

/-! ## What readers read -/

/-- A reader reads a part and goes from one state to another. -/
def Reads (reader : Reader Part) (before : ReadState) (part : Part) (after : ReadState) : Prop :=
  reader before = some (part, after)

/-- A composed reader goes on where its first part stopped. -/
@[simp]
theorem reads_bind {first : Reader Part} {next : Part → Reader Next} {result : Next} :
    (first >>= next).Reads before result after ↔
      ∃ part middle, first.Reads before part middle ∧ (next part).Reads middle result after := by
  change (Option.bind (first before) fun outcome => next outcome.1 outcome.2) = _ ↔ _
  rw [Option.bind_eq_some_iff]
  simp [Reads]

@[simp]
theorem reads_pure {part result : Part} :
    (pure part : Reader Part).Reads before result after ↔ result = part ∧ after = before := by
  change some _ = some _ ↔ _
  simp [eq_comm]

@[simp]
theorem reads_map {reader : Reader Part} {function : Part → Next} {result : Next} :
    (function <$> reader).Reads before result after ↔
      ∃ part, reader.Reads before part after ∧ result = function part := by
  rw [← bind_pure_comp, reads_bind]
  simp

/-- A choice of readers reads what the chosen one reads. -/
@[simp]
theorem reads_ite {condition : Prop} [Decidable condition] {first second : Reader Part}
    {result : Part} :
    (if condition then first else second).Reads before result after ↔
      condition ∧ first.Reads before result after ∨
        ¬ condition ∧ second.Reads before result after := by
  by_cases holds : condition <;> simp [holds]

@[simp]
theorem reads_refuse {result : Part} : (refuse : Reader Part).Reads before result after ↔ False :=
  iff_false_intro nofun

@[simp]
theorem reads_require {condition : Bool} {result : Unit} :
    (require condition).Reads before result after ↔ condition = true ∧ after = before := by
  rw [require, reads_ite, reads_pure]
  simp

/-- A part that is given takes nothing. -/
@[simp]
theorem reads_given {part : Option Part} {result : Part} :
    (given part).Reads before result after ↔ part = some result ∧ after = before := by
  cases part with
  | none => exact iff_of_false nofun nofun
  | some part =>
      change some (part, before) = some _ ↔ _
      simp [eq_comm]

@[simp]
theorem reads_token {result : Token} :
    token.Reads before result after ↔ result = before.token ∧ after = before := by
  change some _ = some _ ↔ _
  simp [eq_comm]

@[simp]
theorem reads_position {result : Nat} :
    position.Reads before result after ↔ result = before.token.start ∧ after = before := by
  change some _ = some _ ↔ _
  simp [eq_comm]

@[simp]
theorem reads_nextToken {result : Token} :
    nextToken.Reads before result after ↔ result = before.following ∧ after = before := by
  change some _ = some _ ↔ _
  simp [ReadState.following, eq_comm]

/-- What comes after a look at the text is told of what was seen. -/
theorem reads_position_bind {next : Nat → Reader Next} {result : Next} :
    (position >>= next).Reads before result after ↔
      (next before.token.start).Reads before result after := by
  simp

theorem reads_token_bind {next : Token → Reader Next} {result : Next} :
    (token >>= next).Reads before result after ↔
      (next before.token).Reads before result after := by
  simp

theorem reads_nextToken_bind {next : Token → Reader Next} {result : Next} :
    (nextToken >>= next).Reads before result after ↔
      (next before.following).Reads before result after := by
  simp

@[simp]
theorem reads_isMark {text : String} {result : Bool} :
    (isMark text).Reads before result after ↔
      result = decide (before.token.kind = .mark text) ∧ after = before := by
  change some _ = some _ ↔ _
  simp [eq_comm]

@[simp]
theorem reads_isWord {text : String} {result : Bool} :
    (isWord text).Reads before result after ↔
      result = decide (before.token.kind = .name text false) ∧ after = before := by
  change some _ = some _ ↔ _
  simp [eq_comm]

/-- Looking for a mark takes nothing. -/
theorem reads_isMark_bind {text : String} {next : Bool → Reader Next} {result : Next} :
    (isMark text >>= next).Reads before result after ↔
      (next (decide (before.token.kind = .mark text))).Reads before result after := by
  simp

theorem reads_isWord_bind {text : String} {next : Bool → Reader Next} {result : Next} :
    (isWord text >>= next).Reads before result after ↔
      (next (decide (before.token.kind = .name text false))).Reads before result after := by
  simp

/-- A node ends where the last token ended that was taken. -/
@[simp]
theorem reads_node {kind : Kind} {start : Nat} {parts : List Node} {result : Node} :
    (node kind start parts).Reads before result after ↔
      result = .mk kind start before.lastFinish parts ∧ after = before := by
  change some _ = some _ ↔ _
  simp [eq_comm]

theorem reads_node_bind {kind : Kind} {start : Nat} {parts : List Node}
    {next : Node → Reader Next} {result : Next} :
    (node kind start parts >>= next).Reads before result after ↔
      (next (.mk kind start before.lastFinish parts)).Reads before result after := by
  simp

/-- What is demanded holds wherever a reader goes on behind it. -/
theorem reads_require_bind {condition : Bool} {next : Unit → Reader Next} {result : Next} :
    (require condition >>= next).Reads before result after ↔
      condition = true ∧ (next ()).Reads before result after := by
  rw [reads_bind]
  constructor
  · rintro ⟨⟨⟩, _, required, read⟩
    rcases reads_require.mp required with ⟨holds, rfl⟩
    exact ⟨holds, read⟩
  · rintro ⟨holds, read⟩
    exact ⟨(), before, reads_require.mpr ⟨holds, rfl⟩, read⟩

/-- Whatever a reader reads leads on in the text, and is as told. -/
abbrev Takes (reader : Reader Part) (told : ReadState → Part → ReadState → Prop) : Prop :=
  ∀ before part after, reader.Reads before part after → before.Sound →
    before.Leads after ∧ told before part after

/-- A reader gives a node that stands where the reader went. -/
abbrev Gives (reader : Reader Node) : Prop :=
  reader.Takes fun before node after => node.Fits before.token.start after.lastFinish

/-- A reader looks ahead and takes nothing. -/
abbrev Keeps (reader : Reader Part) : Prop :=
  ∀ before part after, reader.Reads before part after → after = before

theorem isMark_keeps (text : String) : (isMark text).Keeps := by
  intro before result after read
  exact (reads_isMark.mp read).2

theorem isWord_keeps (text : String) : (isWord text).Keeps := by
  intro before result after read
  exact (reads_isWord.mp read).2

/-- Going on at a cursor leads on if the cursor is not before the token at hand. -/
theorem continueAt_leads {kind : TokenKind} {cursor : Cursor} {result : Unit}
    (read : (continueAt kind cursor).Reads before result after) (sound : before.Sound)
    (ahead : before.token.start ≤ cursor.position) :
    before.Leads after ∧ after.lastFinish = cursor.position ∧
      readToken? kind false cursor = some after.token := by
  rcases Option.bind_eq_some_iff.mp read with ⟨next, found, ⟨⟩⟩
  rcases readToken?_sound found with ⟨nextSound, further⟩
  have spread := sound.behind
  exact ⟨⟨⟨nextSound, further⟩, Nat.le_trans spread ahead, Nat.le_trans ahead further⟩, rfl, found⟩

/-- Going on after characters that are no token leads behind them. -/
theorem continueAfter_leads {kind : TokenKind} {cursor : Cursor} {rest : List Char} {result : Unit}
    (read : (continueAfter kind cursor rest).Reads before result after) (sound : before.Sound)
    (ahead : before.token.start ≤ cursor.position) :
    before.Leads after ∧ cursor.position ≤ after.lastFinish := by
  have further : cursor.position ≤
      (cursor.advance (cursor.rest.length - rest.length)).position := Nat.le_add_right _ _
  rcases continueAt_leads read sound (Nat.le_trans ahead further) with ⟨leads, finish, -⟩
  exact ⟨leads, finish ▸ further⟩

/-- The token that is taken is the last one afterwards, and the one after it is at
hand. -/
theorem advance_takes {result : Unit} (read : advance.Reads before result after)
    (sound : before.Sound) :
    before.Leads after ∧ after.lastFinish = before.token.finish ∧
      after.token = before.following := by
  rw [advance, reads_bind] at read
  rcases read with ⟨current, middle, looked, went⟩
  rcases reads_token.mp looked with ⟨rfl, rfl⟩
  rcases continueAt_leads went sound sound.token.forward with ⟨leads, finish, found⟩
  refine ⟨leads, finish, ?_⟩
  rw [ReadState.following, found]
  rfl

/-- A token that is accepted is taken, and else nothing is. -/
theorem accept_cases {test : Reader Bool} (keeps : test.Keeps) {taken : Bool}
    (read : Reads (do
      if ← test then
        advance
        pure true
      else
        pure false) before taken after) :
    taken = true ∧ test.Reads before true before ∧ advance.Reads before () after ∨
      taken = false ∧ after = before := by
  simp only [reads_bind, reads_ite, reads_pure] at read
  rcases read with ⟨_, _, tested, ⟨rfl, _, _, advanced, rfl, rfl⟩ | ⟨-, rfl, rfl⟩⟩
  · cases keeps _ _ _ tested
    exact .inl ⟨rfl, tested, advanced⟩
  · exact .inr ⟨rfl, keeps _ _ _ tested⟩

/-- A mark that was accepted leads behind its start. -/
theorem acceptMark_taken {text : String} {taken : Bool}
    (read : (acceptMark text).Reads before taken after) (accepted : taken = true)
    (sound : before.Sound) : before.Leads after ∧ before.token.start < after.lastFinish := by
  rcases accept_cases (isMark_keeps text) read with ⟨-, tested, advanced⟩ | ⟨refused, -⟩
  · rcases advance_takes advanced sound with ⟨leads, finish, -⟩
    have isMark := of_decide_eq_true (reads_isMark.mp tested).1.symm
    rw [finish]
    exact ⟨leads, sound.token.filled text isMark⟩
  · rw [refused] at accepted
    cases accepted

/-- A mark that is not there leaves the reader where it was. -/
theorem acceptMark_refused {text : String} {taken : Bool}
    (read : (acceptMark text).Reads before taken after) (refused : ¬ taken = true) :
    after = before := by
  rcases accept_cases (isMark_keeps text) read with ⟨accepted, -⟩ | ⟨-, same⟩
  · exact absurd accepted refused
  · exact same

theorem acceptMark_leads {text : String} {taken : Bool}
    (read : (acceptMark text).Reads before taken after) (sound : before.Sound) :
    before.Leads after := by
  rcases accept_cases (isMark_keeps text) read with ⟨-, -, advanced⟩ | ⟨-, rfl⟩
  · exact (advance_takes advanced sound).1
  · exact .refl sound

/-- A word that was accepted may be the last token, and stands behind its start. -/
theorem acceptWord_taken {text : String} {taken : Bool}
    (read : (acceptWord text).Reads before taken after) (accepted : taken = true)
    (sound : before.Sound) : before.Leads after ∧ before.token.start ≤ after.lastFinish := by
  rcases accept_cases (isWord_keeps text) read with ⟨-, -, advanced⟩ | ⟨refused, -⟩
  · rcases advance_takes advanced sound with ⟨leads, finish, -⟩
    rw [finish]
    exact ⟨leads, sound.token.forward⟩
  · rw [refused] at accepted
    cases accepted

theorem acceptWord_refused {text : String} {taken : Bool}
    (read : (acceptWord text).Reads before taken after) (refused : ¬ taken = true) :
    after = before := by
  rcases accept_cases (isWord_keeps text) read with ⟨accepted, -⟩ | ⟨-, same⟩
  · exact absurd accepted refused
  · exact same

theorem acceptWord_leads {text : String} {taken : Bool}
    (read : (acceptWord text).Reads before taken after) (sound : before.Sound) :
    before.Leads after := by
  rcases accept_cases (isWord_keeps text) read with ⟨-, -, advanced⟩ | ⟨-, rfl⟩
  · exact (advance_takes advanced sound).1
  · exact .refl sound

/-- A mark that is demanded is taken, and is not empty. -/
theorem expectMark_takes {text : String} {result : Unit}
    (read : (expectMark text).Reads before result after) (sound : before.Sound) :
    before.Leads after ∧ before.token.start < after.lastFinish := by
  simp only [expectMark, reads_bind, reads_require] at read
  rcases read with ⟨_, _, accepted, taken, rfl⟩
  exact acceptMark_taken accepted taken sound

/-- A word that is demanded is taken. -/
theorem expectWord_takes {text : String} {result : Unit}
    (read : (expectWord text).Reads before result after) (sound : before.Sound) :
    before.Leads after ∧ before.token.start ≤ after.lastFinish := by
  simp only [expectWord, reads_bind, reads_require] at read
  rcases read with ⟨_, _, accepted, taken, rfl⟩
  exact acceptWord_taken accepted taken sound

/-- The end of a statement may be a mark, or nothing at all. -/
theorem endStatement_leads {result : Unit} (read : endStatement.Reads before result after)
    (sound : before.Sound) : before.Leads after := by
  simp only [endStatement, reads_bind, reads_ite, reads_token, reads_require, reads_pure] at read
  rcases read with ⟨_, _, accepted, ⟨-, _, _, ⟨rfl, rfl⟩, -, rfl⟩ | ⟨-, -, rfl⟩⟩
  · exact acceptMark_leads accepted sound
  · exact acceptMark_leads accepted sound

/-! ## Names and words -/

/-- A name is one token. -/
theorem anyName_takes : anyName.Takes fun before _ after =>
    before.token.start ≤ after.lastFinish := by
  intro before name after read sound
  simp only [anyName, reads_bind, reads_token] at read
  rcases read with ⟨_, before, ⟨rfl, rfl⟩, named⟩
  split at named
  · simp only [reads_bind, reads_pure] at named
    rcases named with ⟨_, _, advanced, rfl, rfl⟩
    rcases advance_takes advanced sound with ⟨leads, finish, -⟩
    exact ⟨leads, Nat.le_trans sound.token.forward (Nat.le_of_eq finish.symm)⟩
  · cases named

theorem variableName_takes : variableName.Takes fun before _ after =>
    before.token.start ≤ after.lastFinish := by
  intro before name after read sound
  simp only [variableName, reads_bind, reads_require, reads_pure] at read
  rcases read with ⟨_, _, named, _, _, ⟨-, rfl⟩, rfl, rfl⟩
  exact anyName_takes _ _ _ named sound

theorem boundName_takes : boundName.Takes fun before _ after =>
    before.token.start ≤ after.lastFinish := by
  intro before name after read sound
  simp only [boundName, reads_bind, reads_require, reads_pure] at read
  rcases read with ⟨_, _, named, _, _, ⟨-, rfl⟩, rfl, rfl⟩
  exact variableName_takes _ _ _ named sound

/-- A word before a key is taken, or is the key itself. -/
theorem acceptModifier_leads {text : String} {staysOnLine takesStar taken : Bool}
    (read : (acceptModifier text staysOnLine takesStar).Reads before taken after)
    (sound : before.Sound) : before.Leads after := by
  simp only [acceptModifier, reads_bind, reads_isWord, reads_nextToken, reads_ite,
    reads_pure] at read
  rcases read with ⟨_, _, ⟨-, rfl⟩,
    ⟨-, _, _, ⟨-, rfl⟩, ⟨-, _, _, advanced, -, rfl⟩ | ⟨-, -, rfl⟩⟩ | ⟨-, -, rfl⟩⟩
  · exact (advance_takes advanced sound).1
  · exact .refl sound
  · exact .refl sound

/-- Of the words before a key, none has to be there. -/
theorem memberStart_leads {isStatic : Bool} {begun : MemberStart}
    (read : (memberStart isStatic).Reads before begun after) (sound : before.Sound) :
    before.Leads after := by
  simp only [memberStart, reads_bind, reads_ite, reads_pure] at read
  rcases read with ⟨_, _, asked, _, _, starred, rest⟩
  have modified := acceptModifier_leads asked sound
  have marked := modified.trans (acceptMark_leads starred modified.sound)
  rcases rest with ⟨-, -, rfl⟩ | ⟨-, ⟨-, -, rfl⟩ | ⟨-, _, _, getter, last⟩⟩
  · exact marked
  · exact marked
  · have got := marked.trans (acceptModifier_leads getter marked.sound)
    rcases last with ⟨-, -, rfl⟩ | ⟨-, _, _, setter, last⟩
    · exact got
    · have set := got.trans (acceptModifier_leads setter got.sound)
      rcases last with ⟨-, -, rfl⟩ | ⟨-, -, rfl⟩
      · exact set
      · exact set

theorem atArrow_keeps : atArrow.Keeps := by
  intro before result after read
  simp only [atArrow, reads_bind, reads_token, reads_pure] at read
  rcases read with ⟨_, _, ⟨-, rfl⟩, -, rfl⟩
  rfl

theorem atStatementEnd_keeps : atStatementEnd.Keeps := by
  intro before result after read
  simp only [atStatementEnd, reads_bind, reads_token, reads_pure] at read
  rcases read with ⟨_, _, ⟨-, rfl⟩, -, rfl⟩
  rfl

theorem atLoopWord_keeps : atLoopWord.Keeps := by
  intro before result after read
  simp only [atLoopWord, reads_bind, reads_isWord, reads_pure] at read
  rcases read with ⟨_, _, ⟨-, rfl⟩, _, _, ⟨-, rfl⟩, -, rfl⟩
  rfl

theorem atAsyncFunction_keeps : atAsyncFunction.Keeps := by
  intro before result after read
  simp only [atAsyncFunction, reads_bind, reads_nextToken, reads_isWord, reads_pure] at read
  rcases read with ⟨_, _, ⟨-, rfl⟩, _, _, ⟨-, rfl⟩, -, rfl⟩
  rfl

theorem atImportExpression_keeps : atImportExpression.Keeps := by
  intro before result after read
  simp only [atImportExpression, reads_bind, reads_nextToken, reads_isWord, reads_pure] at read
  rcases read with ⟨_, _, ⟨-, rfl⟩, _, _, ⟨-, rfl⟩, -, rfl⟩
  rfl

/-- Whether a declaration starts here is told by the token at hand and the one after
it. -/
theorem atDeclaration_keeps : atDeclaration.Keeps := by
  intro before result after read
  simp only [atDeclaration, reads_bind, reads_token] at read
  rcases read with ⟨_, before, ⟨rfl, rfl⟩, asked⟩
  split at asked
  · simp only [reads_bind, reads_pure] at asked
    rcases asked with ⟨_, _, looked, -, rfl⟩
    exact atAsyncFunction_keeps _ _ _ looked
  · exact (reads_pure.mp asked).2

theorem notMark_keeps (text : String) : (do pure !(← isMark text) : Reader Bool).Keeps := by
  intro before result after read
  simp only [reads_bind, reads_isMark, reads_pure] at read
  rcases read with ⟨_, _, ⟨-, rfl⟩, -, rfl⟩
  rfl

/-! ## Passages -/

/-- From a place on, nodes that stand one after the other were read while a reader
went from one state to another. -/
structure Passage (start : Nat) (before : ReadState) (parts : List Node) (after : ReadState) :
    Prop where
  leads : before.Leads after
  started : start ≤ after.lastFinish
  row : Node.Row start parts after.lastFinish

namespace Passage

variable {start : Nat} {middle : ReadState} {parts : List Node} {part : Node} {text : String}
  {result : Unit} {taken : Bool}

/-- A passage on which no node was read yet. -/
theorem of_leads (leads : before.Leads after) (started : start ≤ after.lastFinish) :
    Passage start before [] after :=
  ⟨leads, started, .nil _ _⟩

/-- A passage on which one node was read. -/
theorem of_fits (leads : before.Leads after) (fits : part.Fits start after.lastFinish) :
    Passage start before [part] after :=
  ⟨leads, fits.low_le, fits.mayFit.row⟩

/-- A passage that starts with a mark. -/
theorem of_mark (read : (expectMark text).Reads before result after) (sound : before.Sound)
    (starts : start ≤ before.token.start) : Passage start before [] after := by
  rcases expectMark_takes read sound with ⟨leads, filled⟩
  exact of_leads leads (Nat.le_trans starts (Nat.le_of_lt filled))

/-- A passage that starts with a word. -/
theorem of_word (read : (expectWord text).Reads before result after) (sound : before.Sound)
    (starts : start ≤ before.token.start) : Passage start before [] after := by
  rcases expectWord_takes read sound with ⟨leads, filled⟩
  exact of_leads leads (Nat.le_trans starts filled)

/-- A passage that starts with a mark which might have been missing. -/
theorem of_accepted (read : (acceptMark text).Reads before taken after)
    (accepted : taken = true) (sound : before.Sound) (starts : start ≤ before.token.start) :
    Passage start before [] after := by
  rcases acceptMark_taken read accepted sound with ⟨leads, filled⟩
  exact of_leads leads (Nat.le_trans starts (Nat.le_of_lt filled))

/-- A passage that starts with a word which might have been missing. -/
theorem of_acceptedWord (read : (Reader.acceptWord text).Reads before taken after)
    (accepted : taken = true) (sound : before.Sound) (starts : start ≤ before.token.start) :
    Passage start before [] after := by
  rcases acceptWord_taken read accepted sound with ⟨leads, filled⟩
  exact of_leads leads (Nat.le_trans starts filled)

/-- A passage that starts with the token at hand, whatever it is. -/
theorem of_advance (read : advance.Reads before result after) (sound : before.Sound)
    (starts : start ≤ before.token.start) : Passage start before [] after := by
  rcases advance_takes read sound with ⟨leads, finish, -⟩
  exact of_leads leads (finish ▸ Nat.le_trans starts sound.token.forward)

/-- A passage that starts with a node that a reader gives. -/
theorem of_give {reader : Reader Node} (gives : reader.Gives)
    (read : reader.Reads before part after) (sound : before.Sound)
    (starts : start ≤ before.token.start) : Passage start before [part] after := by
  rcases gives _ _ _ read sound with ⟨leads, fits⟩
  exact of_fits leads (fits.widen starts (Nat.le_refl _))

/-- Whatever is read behind a passage starts behind its start. -/
theorem starts (passage : Passage start before parts after) : start ≤ after.token.start :=
  Nat.le_trans passage.started passage.leads.sound.behind

/-- A passage goes on where no node is read. -/
theorem follow (passage : Passage start before parts middle) (leads : middle.Leads after) :
    Passage start before parts after where
  leads := passage.leads.trans leads
  started := Nat.le_trans passage.started leads.last
  row := passage.row.widen (Nat.le_refl _) leads.last

/-- Nodes that were read behind a passage belong to it. -/
theorem append {more : List Node} (passage : Passage start before parts middle)
    (leads : middle.Leads after) (row : Node.Row middle.token.start more after.lastFinish) :
    Passage start before (parts ++ more) after where
  leads := passage.leads.trans leads
  started := Nat.le_trans passage.started leads.last
  row := by
    have behind := row.widen passage.leads.sound.behind (Nat.le_refl _)
    exact passage.row.append behind passage.started leads.last

/-- A passage that starts where another ends makes one passage with it. -/
theorem concat {more : List Node} (passage : Passage start before parts middle)
    (later : Passage middle.token.start middle more after) :
    Passage start before (parts ++ more) after :=
  passage.append later.leads later.row

/-- A node that a reader gives is read behind a passage. -/
theorem give {reader : Reader Node} (passage : Passage start before parts middle)
    (gives : reader.Gives) (read : reader.Reads middle part after) :
    Passage start before (parts ++ [part]) after := by
  rcases gives _ _ _ read passage.leads.sound with ⟨leads, fits⟩
  exact passage.append leads fits.mayFit.row

/-- A part of a node is missing at the end of a passage. -/
theorem absent (passage : Passage start before parts after) :
    Passage start before (parts ++ [.absent]) after :=
  passage.append (.refl passage.leads.sound) (Node.mayFit_absent _ _).row

/-- A mark on the way belongs to the passage. -/
theorem mark (passage : Passage start before parts middle)
    (read : (expectMark text).Reads middle result after) : Passage start before parts after :=
  passage.follow (expectMark_takes read passage.leads.sound).1

theorem word (passage : Passage start before parts middle)
    (read : (expectWord text).Reads middle result after) : Passage start before parts after :=
  passage.follow (expectWord_takes read passage.leads.sound).1

/-- So does one that might be missing. -/
theorem acceptMark (passage : Passage start before parts middle)
    (read : (acceptMark text).Reads middle taken after) : Passage start before parts after :=
  passage.follow (acceptMark_leads read passage.leads.sound)

theorem acceptWord (passage : Passage start before parts middle)
    (read : (acceptWord text).Reads middle taken after) : Passage start before parts after :=
  passage.follow (acceptWord_leads read passage.leads.sound)

theorem advance (passage : Passage start before parts middle)
    (read : advance.Reads middle result after) : Passage start before parts after :=
  passage.follow (advance_takes read passage.leads.sound).1

/-- The end of a statement belongs to it. -/
theorem endStatement (passage : Passage start before parts middle)
    (read : endStatement.Reads middle result after) : Passage start before parts after :=
  passage.follow (endStatement_leads read passage.leads.sound)

/-- What was read on a passage makes a node that stands where the passage does. -/
theorem node {kind : Kind} (passage : Passage start before parts after)
    (ordinary : kind.isOrdinary = true) :
    before.Leads after ∧
      (Node.mk kind start after.lastFinish parts).Fits start after.lastFinish :=
  ⟨passage.leads, Node.fits_mk ordinary passage.row passage.started⟩

/-- Such a node stands behind every place before the start of the passage. -/
theorem nodeBehind {kind : Kind} {low : Nat} (passage : Passage start before parts after)
    (ordinary : kind.isOrdinary = true) (below : low ≤ start) :
    before.Leads after ∧
      (Node.mk kind start after.lastFinish parts).Fits low after.lastFinish :=
  ⟨passage.leads,
    (Node.fits_mk ordinary passage.row passage.started).widen below (Nat.le_refl _)⟩

/-- The node that is made of what was read on a passage stands where its parts do. -/
theorem wrap {kind : Kind} (passage : Passage start before parts after)
    (ordinary : kind.isOrdinary = true) :
    Passage start before [.mk kind start after.lastFinish parts] after :=
  of_fits passage.leads (Node.fits_mk ordinary passage.row passage.started)

/-- A call for which something was read. -/
theorem call (passage : Passage start before parts after) (filled : start < after.lastFinish) :
    before.Leads after ∧
      (Node.mk (.call false) start after.lastFinish parts).Fits start after.lastFinish :=
  ⟨passage.leads, Node.fits_call passage.row filled⟩

/-- A variable whose name was read on a passage. -/
theorem identifier (passage : Passage start before [] after) (name : String) :
    before.Leads after ∧
      (Node.mk (.identifier name) start after.lastFinish []).Fits start after.lastFinish :=
  ⟨passage.leads, Node.fits_identifier name passage.started⟩

/-- A loop whose body was read first. -/
theorem doLoop {test body : Node} (passage : Passage start before [body, test] after) :
    before.Leads after ∧
      (Node.mk .doStatement start after.lastFinish [test, body]).Fits start after.lastFinish :=
  ⟨passage.leads, Node.fits_of_row passage.row passage.started nofun nofun trivial⟩

/-- A class whose body was read last. -/
theorem classLike {name superclass body : Node}
    (passage : Passage start before [name, superclass, body] after) :
    before.Leads after ∧
      (Node.mk .classLike start after.lastFinish [name, body, superclass]).Fits start
        after.lastFinish :=
  ⟨passage.leads, Node.fits_of_row passage.row passage.started nofun nofun trivial⟩

end Passage

/-- A node that was read stays where it is while a reader goes on. -/
theorem follow_given {start : Nat} {middle : ReadState} {node : Node}
    (given : before.Leads middle ∧ node.Fits start middle.lastFinish)
    (leads : middle.Leads after) : before.Leads after ∧ node.Fits start after.lastFinish :=
  ⟨given.1.trans leads, given.2.widen (Nat.le_refl _) leads.last⟩

/-- A node that is read behind a passage without nodes stands behind its start. -/
theorem Passage.reach {start : Nat} {middle : ReadState} {node : Node} {reader : Reader Node}
    (passage : Passage start before [] middle) (gives : reader.Gives)
    (read : reader.Reads middle node after) :
    before.Leads after ∧ node.Fits start after.lastFinish := by
  rcases gives _ _ _ read passage.leads.sound with ⟨leads, fits⟩
  exact ⟨passage.leads.trans leads, fits.widen passage.starts (Nat.le_refl _)⟩

/-- Items that are read one after the other stand so. -/
theorem manyUntil_takes {stop : Reader Bool} {item : Reader Part} {nodeOf : Part → Node}
    {good : Part → Prop} (keeps : stop.Keeps)
    (takes : item.Takes fun before part after =>
      Node.MayFit before.token.start (nodeOf part) after.lastFinish ∧ good part) :
    (manyUntil stop item).Takes fun before parts after =>
      Node.Row before.token.start (parts.map nodeOf) after.lastFinish ∧
        ∀ part ∈ parts, good part := by
  intro before parts after read sound
  simp only [manyUntil, reads_bind, reads_token] at read
  rcases read with ⟨_, before, ⟨rfl, rfl⟩, read⟩
  generalize before.token.here.rest.length + 2 = fuel at read
  induction fuel generalizing before parts with
  | zero => cases read
  | succ fuel induction =>
      simp only [manyUntilWithin, reads_bind, reads_ite, reads_pure] at read
      rcases read with ⟨stopping, _, looked, ⟨-, rfl, rfl⟩ | ⟨-, goingOn⟩⟩
      · cases keeps _ _ _ looked
        exact ⟨.refl sound, .nil _ _, List.forall_mem_nil _⟩
      · rcases goingOn with ⟨first, middle, firstRead, rest, _, restRead, rfl, rfl⟩
        cases keeps _ _ _ looked
        rcases takes _ _ _ firstRead sound with ⟨firstLeads, fits, isGood⟩
        rcases induction rest middle firstLeads.sound restRead with ⟨restLeads, row, areGood⟩
        refine ⟨firstLeads.trans restLeads, ?_, List.forall_mem_cons.mpr ⟨isGood, areGood⟩⟩
        exact fits.cons row firstLeads.start firstLeads.sound.behind restLeads.last

theorem manyUntil_fits {stop : Reader Bool} {item : Reader Part} {nodeOf : Part → Node}
    (keeps : stop.Keeps)
    (takes : item.Takes fun before part after =>
      Node.Fits before.token.start (nodeOf part) after.lastFinish) :
    (manyUntil stop item).Takes fun before parts after =>
      Node.Row before.token.start (parts.map nodeOf) after.lastFinish ∧
        Node.ArePresent (parts.map nodeOf) := by
  have each : item.Takes fun before part after =>
      Node.MayFit before.token.start (nodeOf part) after.lastFinish ∧
        (nodeOf part).isAbsent = false := by
    intro before part after read sound
    rcases takes before part after read sound with ⟨leads, fits⟩
    exact ⟨leads, fits.mayFit, fits.present⟩
  intro before parts after read sound
  rcases manyUntil_takes keeps each before parts after read sound with ⟨leads, row, present⟩
  exact ⟨leads, row, List.forall_mem_map.mpr present⟩

/-- Nodes that are read one after the other make a row. -/
theorem manyUntil_gives {stop : Reader Bool} {item : Reader Node} (keeps : stop.Keeps)
    (gives : item.Gives) :
    (manyUntil stop item).Takes fun before nodes after =>
      Node.Row before.token.start nodes after.lastFinish ∧ Node.ArePresent nodes := by
  intro before nodes after read sound
  have taken := @manyUntil_fits Node stop item id keeps gives before nodes after read sound
  simpa only [List.map_id] using taken

/-- Some of the items of a row may be missing. -/
theorem manyUntil_mayGive {stop : Reader Bool} {item : Reader Node} (keeps : stop.Keeps)
    (takes : item.Takes fun before node after =>
      node.MayFit before.token.start after.lastFinish) :
    (manyUntil stop item).Takes fun before nodes after =>
      Node.Row before.token.start nodes after.lastFinish := by
  have each : item.Takes fun before node after =>
      Node.MayFit before.token.start (id node) after.lastFinish ∧ True := by
    intro before node after read sound
    exact (takes before node after read sound).imp_right fun fits => ⟨fits, trivial⟩
  intro before nodes after read sound
  have taken := manyUntil_takes keeps each before nodes after read sound
  simpa only [List.map_id, implies_true, and_true] using taken

/-- Items after commas, as many as there are. -/
theorem commaList_takes {item : Reader Node} (itemGives : item.Gives) :
    (manyUntil (do pure !(← isMark ",")) (do
      expectMark ","
      item)).Takes fun before nodes after =>
        Node.Row before.token.start nodes after.lastFinish ∧ Node.ArePresent nodes := by
  apply manyUntil_gives (notMark_keeps ",")
  intro before node after read sound
  rw [reads_bind] at read
  rcases read with ⟨_, middle, comma, itemRead⟩
  have begun := (expectMark_takes comma sound).1
  rcases itemGives _ _ _ itemRead begun.sound with ⟨leads, fits⟩
  exact ⟨begun.trans leads, fits.widen begun.start (Nat.le_refl _)⟩

end Reader

end ScriptBundle.Script
