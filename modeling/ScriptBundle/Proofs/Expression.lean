import ScriptBundle.Proofs.Production

/-!
# What expressions give

Expressions are read from their parts outwards: a head is read first, and what
comes after it decides which node holds it.  So what finishes a node is told by
the passage on which its first parts were read, and a reader that takes a head
gives a node that starts where the head does.

What stood in parentheses may turn out to be parameters, and what stood before a
sign may turn out to be a target.  These stand where the expressions stood.
-/

namespace ScriptBundle.Script.Reader

variable {start : Nat} {first before after : ReadState} {node : Node}

/-- A regular expression is read from the characters, not from tokens. -/
theorem regularExpression_gives : regularExpression.Gives := by
  intro before node after read sound
  rw [regularExpression, reads_token_bind] at read
  simp only [reads_bind, reads_given, reads_node, Prod.exists] at read
  rcases read with ⟨body, flags, rest, _, ⟨-, rfl⟩, _, _, went, rfl, rfl⟩
  rcases continueAfter_leads went sound (Nat.le_refl _) with ⟨leads, further⟩
  exact (Passage.of_leads leads further).node rfl

/-- The name of a property may be private. -/
theorem propertyName_gives : propertyName.Gives := by
  intro before node after read sound
  rw [propertyName, reads_position_bind, reads_token_bind] at read
  split at read
  · exact tokenNode_gives rfl read sound
  · exact nameNode_gives anyName_takes _ _ _ read sound

/-- An expression in parentheses stands where the parentheses stand. -/
theorem parenthesizedFrom_gives {items : List Node} {commaAtEnd : Bool}
    (passage : Passage start first items before) (present : Node.ArePresent items)
    (read : (parenthesizedFrom start items commaAtEnd).Reads before node after) :
    first.Leads after ∧ node.Fits start after.lastFinish := by
  simp only [parenthesizedFrom, reads_bind, reads_require, reads_node, Bool.and_eq_true,
    Bool.not_eq_true', List.isEmpty_eq_false_iff] at read
  rcases read with ⟨_, _, ⟨⟨⟨filled, -⟩, -⟩, rfl⟩, rfl, rfl⟩
  have inside := sequenceNode_fits passage.row present filled
  exact (Passage.of_fits passage.leads inside).node rfl

/-- Parameters stand where the items stood that they were turned from. -/
theorem parametersNode_takes {commaAtEnd : Bool} {items : List Node}
    (passage : Passage start first items before)
    (read : (parametersNode start commaAtEnd items).Reads before node after) :
    Passage start first [node] after := by
  simp only [parametersNode, reads_bind, reads_given, reads_node] at read
  rcases read with ⟨targets, _, ⟨turned, rfl⟩, rfl, rfl⟩
  have row := Node.row_of_replaces (asParameters?_replaces turned) passage.row
  have replaced : Passage start first targets after := ⟨passage.leads, passage.started, row⟩
  exact replaced.wrap rfl

/-- A single parameter needs no parentheses. -/
theorem singleParameter_takes {single : Node}
    (given : first.Leads before ∧ single.Fits start before.lastFinish) :
    Passage start first [.mk .parameters single.start before.lastFinish [single]] before := by
  rcases given with ⟨leads, fits⟩
  refine Passage.of_fits leads (Node.Fits.widen ?_ fits.starts (Nat.le_refl _))
  exact Node.fits_mk rfl fits.behindStart.mayFit.row fits.behindStart.low_le

/-- What stands after `super` is left to the chain that it heads. -/
theorem superHead_gives : superHead.Gives := by
  intro before node after read sound
  rw [superHead, reads_position_bind] at read
  simp only [reads_bind, reads_token, reads_require, reads_node] at read
  rcases read with ⟨_, _, word, _, _, ⟨-, rfl⟩, _, _, ⟨-, rfl⟩, rfl, rfl⟩
  exact (Passage.of_word word sound (Nat.le_refl _)).node rfl

/-- The word `import` heads a call, or is part of the name of the module. -/
theorem importHead_gives (allowsCalls : Bool) : (importHead allowsCalls).Gives := by
  intro before node after read sound
  rw [importHead, reads_position_bind] at read
  simp only [reads_bind, reads_ite, reads_isMark, reads_require, reads_node] at read
  rcases read with ⟨_, _, word, _, _, dot, read⟩
  have begun := (Passage.of_word word sound (Nat.le_refl _)).acceptMark dot
  rcases read with ⟨-, _, _, property, rfl, rfl⟩ | ⟨-, _, _, ⟨-, rfl⟩, _, _, ⟨-, rfl⟩, rfl, rfl⟩
  · exact (begun.word property).node rfl
  · exact begun.node rfl

/-- An expression starts behind a place: with its head, if that was read
already, and else with the token at hand. -/
def Begins (low : Nat) (state : ReadState) : Option Node → Prop
  | none => low ≤ state.token.start
  | some head => head.Fits low state.lastFinish

/-- A reader gives a node that starts where its head does. -/
abbrev GivesFrom (head : Option Node) (reader : Reader Node) : Prop :=
  ∀ before node after, reader.Reads before node after → before.Sound →
    ∀ low, Begins low before head → before.Leads after ∧ node.Fits low after.lastFinish

/-- Without a head, an expression starts with the token at hand. -/
theorem gives_of_givesFrom {reader : Reader Node} (givesFrom : GivesFrom none reader) :
    reader.Gives := by
  intro before node after read sound
  exact givesFrom before node after read sound before.token.start (Nat.le_refl _)

variable {recur : Recur} (gives : ∀ goal, (recur goal).Gives)
include gives

/-- The expressions of a template stand one after the other, each behind the text that
comes before it. -/
theorem templateParts_takes {allowsBroken : Bool} {fuel : Nat} {cursor : Cursor}
    {parts : List String × List Node}
    (read : (templateParts recur allowsBroken fuel cursor).Reads before parts after)
    (sound : before.Sound) (ahead : before.token.start ≤ cursor.position) :
    before.Leads after ∧ cursor.position ≤ after.lastFinish ∧
      Node.Row cursor.position parts.2 after.lastFinish := by
  induction fuel generalizing before cursor parts with
  | zero => cases read
  | succ fuel induction =>
      simp only [templateParts, reads_bind, reads_given, reads_require, reads_ite, reads_pure,
        reads_token] at read
      rcases read with ⟨part, _, ⟨-, rfl⟩, _, _, ⟨-, rfl⟩, _, middle, went,
        ⟨-, rfl, rfl⟩ | ⟨-, value, _, valueRead, _, _, ⟨rfl, rfl⟩, _, closed, ⟨-, rfl⟩,
          ⟨texts, values⟩, _, restRead, rfl, rfl⟩⟩
      · rcases continueAfter_leads went sound ahead with ⟨leads, further⟩
        exact ⟨leads, further, .nil _ _⟩
      · rcases continueAfter_leads went sound ahead with ⟨leads, further⟩
        have passed := (Passage.of_leads leads further).give (gives _) valueRead
        have beyond : closed.token.start ≤ closed.token.after.position :=
          passed.leads.sound.token.forward
        rcases induction restRead passed.leads.sound beyond with ⟨restLeads, -, row⟩
        have behind := row.widen beyond (Nat.le_refl _)
        have whole := passed.append restLeads behind
        exact ⟨whole.leads, whole.started, whole.row⟩

/-- A template stands from its first mark to the last of its texts. -/
theorem template_gives (allowsBroken : Bool) : (template recur allowsBroken).Gives := by
  intro before node after read sound
  rw [template, reads_token_bind] at read
  simp only [reads_bind, reads_require, reads_node] at read
  rcases read with ⟨_, _, ⟨-, rfl⟩, ⟨texts, values⟩, _, partsRead, rfl, rfl⟩
  rcases templateParts_takes gives partsRead sound sound.token.forward with ⟨leads, further, row⟩
  have forward := sound.token.forward
  have passage : Passage _ _ values after :=
    ⟨leads, Nat.le_trans forward further, row.widen forward (Nat.le_refl _)⟩
  exact passage.node rfl

theorem spreadable_gives : (spreadable recur).Gives := by
  intro before node after read sound
  rw [spreadable, reads_position_bind] at read
  simp only [reads_bind, reads_ite, reads_node] at read
  rcases read with ⟨_, _, dots, ⟨accepted, value, _, valueRead, rfl, rfl⟩ | ⟨refused, plain⟩⟩
  · have begun := Passage.of_accepted dots accepted sound (Nat.le_refl _)
    exact (begun.give (gives _) valueRead).node rfl
  · cases acceptMark_refused dots refused
    exact gives _ _ _ _ plain sound

/-- An item of a list may be missing. -/
theorem arrayItem_takes : (arrayItem recur).Takes fun before item after =>
    item.1.MayFit before.token.start after.lastFinish ∧ True := by
  intro before item after read sound
  rw [arrayItem, reads_bind] at read
  rcases read with ⟨_, _, comma, read⟩
  rw [reads_ite] at read
  rcases read with ⟨-, read⟩ | ⟨refused, read⟩
  · rcases reads_pure.mp read with ⟨rfl, rfl⟩
    exact ⟨acceptMark_leads comma sound, Node.mayFit_absent _ _, trivial⟩
  · cases acceptMark_refused comma refused
    rw [reads_bind] at read
    rcases read with ⟨value, _, valueRead, read⟩
    rcases withComma_gives (spreadable_gives gives _ _ _ valueRead sound) read with ⟨leads, fits⟩
    exact ⟨leads, fits.mayFit, trivial⟩

theorem arrayLiteral_gives : (arrayLiteral recur).Gives := by
  intro before node after read sound
  rw [arrayLiteral, reads_position_bind] at read
  simp only [reads_bind, reads_node] at read
  rcases read with ⟨_, _, opens, items, _, itemsRead, _, _, closes, rfl, rfl⟩
  have begun := Passage.of_mark opens sound (Nat.le_refl _)
  rcases manyUntil_takes (isMark_keeps "]") (arrayItem_takes gives) _ _ _ itemsRead
    begun.leads.sound with ⟨leads, row, -⟩
  exact ((begun.append leads row).mark closes).node rfl

/-- The key of a property was read before, and may be a variable at the same time. -/
theorem plainProperty_gives {isVariable : Bool} {key : Node} (leads : first.Leads before)
    (fits : key.Fits start before.lastFinish)
    (read : (plainProperty recur start isVariable key).Reads before node after) :
    first.Leads after ∧ node.Fits start after.lastFinish := by
  rw [plainProperty, reads_bind] at read
  rcases read with ⟨_, _, colon, read⟩
  rw [reads_ite] at read
  rcases read with ⟨-, read⟩ | ⟨refused, read⟩
  · simp only [reads_bind, reads_node] at read
    rcases read with ⟨value, _, valueRead, rfl, rfl⟩
    have keyed := (Passage.of_fits leads fits).acceptMark colon
    exact (keyed.give (gives _) valueRead).node rfl
  cases acceptMark_refused colon refused
  split at read
  · next name _ =>
    simp only [reads_bind, reads_require, reads_ite, reads_node] at read
    rcases read with ⟨_, _, ⟨-, rfl⟩, _, _, sign, read⟩
    have named := (Passage.of_fits leads (fits.asVariable name)).acceptMark sign
    rcases read with ⟨-, value, _, valueRead, rfl, rfl⟩ | ⟨-, rfl, rfl⟩
    · exact (named.give (gives _) valueRead).node rfl
    · exact named.node rfl
  · cases read

/-- A property starts before the words that come before its key. -/
theorem objectProperty_gives : (objectProperty recur).Gives := by
  intro before node after read sound
  rw [objectProperty, reads_position_bind] at read
  simp only [reads_bind, reads_ite, reads_isMark, reads_token, reads_require, reads_node] at read
  rcases read with ⟨_, _, dots, ⟨accepted, value, _, valueRead, rfl, rfl⟩ | ⟨refused, read⟩⟩
  · have begun := Passage.of_accepted dots accepted sound (Nat.le_refl _)
    exact (begun.give (gives _) valueRead).node rfl
  · cases acceptMark_refused dots refused
    rcases read with ⟨begun, _, startRead, _, _, ⟨-, rfl⟩, key, _, keyRead, _, _, ⟨-, rfl⟩, read⟩
    have begins := memberStart_leads startRead sound
    rcases propertyKey_gives gives false _ _ _ keyRead begins.sound with ⟨leads, keyFits⟩
    have fits := keyFits.widen begins.start (Nat.le_refl _)
    rcases read with ⟨-, parts, _, partsRead, _, _, ⟨-, rfl⟩, rfl, rfl⟩ | ⟨-, _, _, ⟨-, rfl⟩, plain⟩
    · have keyed := Passage.of_fits (begins.trans leads) fits
      exact (methodParts_takes gives keyed partsRead).node rfl
    · exact plainProperty_gives gives (begins.trans leads) fits plain

theorem objectItem_takes : (objectItem recur).Takes fun before item after =>
    item.1.Fits before.token.start after.lastFinish := by
  intro before item after read sound
  rw [objectItem, reads_bind] at read
  rcases read with ⟨property, _, propertyRead, read⟩
  exact withComma_gives (objectProperty_gives gives _ _ _ propertyRead sound) read

theorem objectLiteral_gives : (objectLiteral recur).Gives := by
  intro before node after read sound
  rw [objectLiteral, reads_position_bind] at read
  simp only [reads_bind, reads_node] at read
  rcases read with ⟨_, _, opens, items, _, itemsRead, _, _, closes, rfl, rfl⟩
  have begun := Passage.of_mark opens sound (Nat.le_refl _)
  rcases manyUntil_fits (isMark_keeps "\x7d") (objectItem_takes gives) _ _ _ itemsRead
    begun.leads.sound with ⟨leads, row, -⟩
  exact ((begun.append leads row).mark closes).node rfl

/-! ## Parentheses, arguments and primary expressions -/

/-- The rest of parameters may stand in parentheses too. -/
theorem coverItem_takes : (coverItem recur).Takes fun before item after =>
    item.1.Fits before.token.start after.lastFinish := by
  intro before item after read sound
  rw [coverItem, reads_isMark_bind, reads_ite] at read
  rcases read with ⟨-, read⟩ | ⟨-, read⟩
  · simp only [reads_bind, reads_pure] at read
    rcases read with ⟨rest, _, restRead, rfl, rfl⟩
    exact restBinding_gives gives ")" _ _ _ restRead sound
  · rw [reads_bind] at read
    rcases read with ⟨value, _, valueRead, read⟩
    exact withComma_gives (gives _ _ _ _ valueRead sound) read

/-- What stands in parentheses may become an expression or parameters. -/
theorem cover_takes {items : List Node × Bool} (read : (cover recur).Reads before items after)
    (sound : before.Sound) :
    Passage before.token.start before items.1 after ∧ Node.ArePresent items.1 := by
  simp only [cover, reads_bind, reads_pure] at read
  rcases read with ⟨_, _, opens, inside, _, insideRead, _, _, closes, rfl, rfl⟩
  have begun := Passage.of_mark opens sound (Nat.le_refl _)
  rcases manyUntil_fits (isMark_keeps ")") (coverItem_takes gives) _ _ _ insideRead
    begun.leads.sound with ⟨leads, row, present⟩
  exact ⟨(begun.append leads row).mark closes, present⟩

theorem argument_takes : (argument recur).Takes fun before item after =>
    item.1.Fits before.token.start after.lastFinish := by
  intro before item after read sound
  rw [argument, reads_bind] at read
  rcases read with ⟨value, _, valueRead, read⟩
  exact withComma_gives (spreadable_gives gives _ _ _ valueRead sound) read

/-- A call without arguments has parentheses, so it is not empty. -/
theorem arguments_takes {values : List Node × Bool}
    (read : (arguments recur).Reads before values after) (sound : before.Sound) :
    Passage before.token.start before values.1 after ∧
      before.token.start < after.lastFinish := by
  simp only [arguments, reads_bind, reads_pure] at read
  rcases read with ⟨_, _, opens, inside, _, insideRead, _, _, closes, rfl, rfl⟩
  have begun := Passage.of_mark opens sound (Nat.le_refl _)
  have filled := (expectMark_takes opens sound).2
  rcases manyUntil_fits (isMark_keeps ")") (argument_takes gives) _ _ _ insideRead
    begun.leads.sound with ⟨leads, row, -⟩
  have closed := (expectMark_takes closes leads.sound).1
  exact ⟨(begun.append leads row).follow closed,
    Nat.lt_of_lt_of_le filled (Nat.le_trans leads.last closed.last)⟩

/-- A name is a constant, starts a function or a class, or is that of a variable. -/
theorem namedPrimary_gives (value : String) (escaped : Bool) :
    (namedPrimary recur value escaped).Gives := by
  intro before node after read sound
  rw [namedPrimary, reads_position_bind, reads_ite] at read
  rcases read with ⟨-, read⟩ | ⟨-, read⟩
  · exact variableNode_gives variableName_takes _ _ _ (reads_position_bind.mpr read) sound
  rw [reads_ite] at read
  rcases read with ⟨-, read⟩ | ⟨-, read⟩
  · exact tokenNode_gives rfl read sound
  rw [reads_ite] at read
  rcases read with ⟨-, read⟩ | ⟨-, read⟩
  · exact functionFrom_gives gives read sound (Nat.le_refl _)
  rw [reads_ite] at read
  rcases read with ⟨-, read⟩ | ⟨-, read⟩
  · exact classFrom_gives gives false _ _ _ read sound
  rw [reads_ite] at read
  rcases read with ⟨-, read⟩ | ⟨-, read⟩
  · -- the word may be the name of a variable
    rw [reads_nextToken_bind] at read
    simp only [reads_ite, reads_bind, reads_node] at read
    rcases read with ⟨-, _, _, advanced, functionRead⟩ | ⟨-, _, _, advanced, rfl, rfl⟩
    · have begun := Passage.of_advance advanced sound (Nat.le_refl _)
      have given := functionFrom_gives gives functionRead begun.leads.sound begun.starts
      exact given.imp_left begun.leads.trans
    · exact (Passage.of_advance advanced sound (Nat.le_refl _)).identifier value
  · exact variableNode_gives variableName_takes _ _ _ (reads_position_bind.mpr read) sound

theorem primary_gives : (primary recur).Gives := by
  intro before node after read sound
  rw [primary, reads_token_bind] at read
  split at read
  · exact namedPrimary_gives gives _ _ _ _ _ read sound
  · exact tokenNode_gives rfl read sound
  · exact tokenNode_gives rfl read sound
  · exact stringNode_gives _ _ _ read sound
  · rw [reads_bind] at read
    rcases read with ⟨⟨items, commaAtEnd⟩, _, itemsRead, read⟩
    rcases cover_takes gives itemsRead sound with ⟨passage, present⟩
    exact parenthesizedFrom_gives passage present read
  · exact arrayLiteral_gives gives _ _ _ read sound
  · exact objectLiteral_gives gives _ _ _ read sound
  · exact template_gives gives false _ _ _ read sound
  · exact regularExpression_gives _ _ _ read sound
  · exact regularExpression_gives _ _ _ read sound
  · cases read

/-- What comes after a question mark starts with the head that it asks for. -/
theorem optionalLink_gives {head : Node}
    (given : first.Leads before ∧ head.Fits start before.lastFinish)
    (read : (optionalLink recur start head).Reads before node after) :
    first.Leads after ∧ node.Fits start after.lastFinish := by
  have passage := Passage.of_fits given.1 given.2
  rw [optionalLink, reads_isMark_bind, reads_ite] at read
  rcases read with ⟨-, read⟩ | ⟨-, read⟩
  · simp only [reads_bind, reads_node] at read
    rcases read with ⟨⟨values, commaAtEnd⟩, _, valuesRead, rfl, rfl⟩
    exact (passage.concat (arguments_takes gives valuesRead passage.leads.sound).1).node rfl
  rw [reads_bind] at read
  rcases read with ⟨_, _, opens, read⟩
  have opened := passage.acceptMark opens
  rw [reads_ite] at read
  rcases read with ⟨-, read⟩ | ⟨-, read⟩
  · simp only [reads_bind, reads_node] at read
    rcases read with ⟨value, _, valueRead, _, _, closes, rfl, rfl⟩
    exact ((opened.give (gives _) valueRead).mark closes).node rfl
  · simp only [reads_bind, reads_node] at read
    rcases read with ⟨name, _, nameRead, rfl, rfl⟩
    exact (opened.give propertyName_gives nameRead).node rfl

/-- Where there is no link, the chain stays as it is. -/
theorem link_gives {allowsCalls : Bool} {head : Node} {longer : Option Node}
    (given : first.Leads before ∧ head.Fits start before.lastFinish)
    (read : (link recur allowsCalls start head).Reads before longer after) :
    first.Leads after ∧ (longer.getD head).Fits start after.lastFinish := by
  have passage := Passage.of_fits given.1 given.2
  rw [link, reads_token_bind] at read
  split at read
  · simp only [reads_bind, reads_node, reads_pure] at read
    rcases read with ⟨_, _, advanced, name, _, nameRead, _, _, ⟨rfl, rfl⟩, rfl, rfl⟩
    exact ((passage.advance advanced).give propertyName_gives nameRead).node rfl
  · simp only [reads_bind, reads_node, reads_pure] at read
    rcases read with ⟨_, _, advanced, value, _, valueRead, _, _, closes, _, _, ⟨rfl, rfl⟩, rfl, rfl⟩
    exact (((passage.advance advanced).give (gives _) valueRead).mark closes).node rfl
  · simp only [reads_bind, reads_require, reads_node, reads_pure] at read
    rcases read with ⟨_, _, ⟨-, rfl⟩, text, _, textRead, _, _, ⟨rfl, rfl⟩, rfl, rfl⟩
    exact (passage.give (template_gives gives true) textRead).node rfl
  · simp only [reads_ite, reads_bind, reads_require, reads_node, reads_pure] at read
    rcases read with ⟨-, ⟨values, commaAtEnd⟩, _, valuesRead, _, _, ⟨-, rfl⟩, _, _, ⟨rfl, rfl⟩,
      rfl, rfl⟩ | ⟨-, rfl, rfl⟩
    · rcases arguments_takes gives valuesRead passage.leads.sound with ⟨inside, filled⟩
      exact (passage.concat inside).call (Nat.lt_of_le_of_lt passage.starts filled)
    · exact given
  · simp only [reads_bind, reads_require, reads_pure] at read
    rcases read with ⟨_, _, ⟨-, rfl⟩, _, _, advanced, linked, _, linkRead, rfl, rfl⟩
    have begun := (advance_takes advanced given.1.sound).1
    exact optionalLink_gives gives (follow_given given begun) linkRead
  · rcases reads_pure.mp read with ⟨rfl, rfl⟩
    exact given

/-- Each link makes the head of the next one. -/
theorem linksFrom_gives {allowsCalls : Bool} {fuel : Nat} {head : Node}
    (given : first.Leads before ∧ head.Fits start before.lastFinish)
    (read : (linksFrom recur allowsCalls start fuel head).Reads before node after) :
    first.Leads after ∧ node.Fits start after.lastFinish := by
  induction fuel generalizing before head with
  | zero => cases read
  | succ fuel induction =>
      rw [linksFrom, reads_bind] at read
      rcases read with ⟨longer, middle, linkRead, read⟩
      have linked := link_gives gives given linkRead
      cases longer with
      | none =>
          rcases reads_pure.mp read with ⟨rfl, rfl⟩
          exact linked
      | some longer => exact induction linked read

/-- A chain starts where its head starts. -/
theorem links_gives {allowsCalls : Bool} {head : Node}
    (given : first.Leads before ∧ head.Fits start before.lastFinish)
    (read : (links recur allowsCalls head).Reads before node after) :
    first.Leads after ∧ node.Fits start after.lastFinish := by
  rcases given with ⟨leads, fits⟩
  rw [links, reads_token_bind] at read
  rcases linksFrom_gives gives ⟨leads, fits.behindStart⟩ read with ⟨later, chained⟩
  exact ⟨later, chained.widen fits.starts (Nat.le_refl _)⟩

/-- The arguments of a construction may be left out. -/
theorem construction_gives : (construction recur).Gives := by
  intro before node after read sound
  rw [construction, reads_position_bind] at read
  simp only [reads_bind, reads_ite, reads_isMark, reads_require, reads_node] at read
  rcases read with ⟨_, _, word, _, _, dot, read⟩
  have begun := (Passage.of_word word sound (Nat.le_refl _)).acceptMark dot
  rcases read with ⟨-, _, _, target, rfl, rfl⟩ | ⟨-, callee, _, calleeRead, _, _, ⟨-, rfl⟩, read⟩
  · exact (begun.word target).node rfl
  have called := begun.give (gives _) calleeRead
  rcases read with ⟨-, ⟨values, commaAtEnd⟩, _, valuesRead, rfl, rfl⟩ |
    ⟨-, _, _, ⟨-, rfl⟩, _, _, ⟨-, rfl⟩, rfl, rfl⟩
  · exact (called.concat (arguments_takes gives valuesRead called.leads.sound).1).node rfl
  · exact called.node rfl

theorem chainHead_gives (allowsCalls : Bool) : (chainHead recur allowsCalls).Gives := by
  intro before node after read sound
  rw [chainHead, reads_isWord_bind, reads_ite] at read
  rcases read with ⟨-, read⟩ | ⟨-, read⟩
  · exact superHead_gives _ _ _ read sound
  rw [reads_isWord_bind, reads_ite] at read
  rcases read with ⟨-, read⟩ | ⟨-, read⟩
  · exact importHead_gives allowsCalls _ _ _ read sound
  rw [reads_isWord_bind, reads_ite] at read
  rcases read with ⟨-, read⟩ | ⟨-, read⟩
  · exact construction_gives gives _ _ _ read sound
  · exact primary_gives gives _ _ _ read sound

theorem constructedGoal_gives : (constructedGoal recur).Gives := by
  intro before node after read sound
  rw [constructedGoal, reads_bind] at read
  rcases read with ⟨head, _, headRead, read⟩
  exact links_gives gives (chainHead_gives gives false _ _ _ headRead sound) read

/-! ## Operators -/

/-- A chain may go on from a head that was read before. -/
theorem chain_gives (head : Option Node) : GivesFrom head (chain recur head) := by
  intro before node after read sound low begins
  cases head with
  | none =>
      rw [chain, reads_bind] at read
      rcases read with ⟨head, _, headRead, read⟩
      rcases chainHead_gives gives true _ _ _ headRead sound with ⟨leads, fits⟩
      exact links_gives gives ⟨leads, fits.widen begins (Nat.le_refl _)⟩ read
  | some head =>
      rw [chain, reads_bind] at read
      rcases read with ⟨_, _, same, read⟩
      rcases reads_pure.mp same with ⟨rfl, rfl⟩
      exact links_gives gives ⟨.refl sound, begins⟩ read

/-- An operator may come after its operand. -/
theorem plainOperand_gives (head : Option Node) : GivesFrom head (do
    let value ← chain recur head
    let following ← token
    if (following.kind = .mark "++" || following.kind = .mark "--") && !following.afterLineEnd then
      require (isParenthesizedTarget value)
      advance
      let operator := if following.kind = .mark "++" then "++" else "--"
      Reader.node (.update operator false) value.start [value]
    else
      pure value) := by
  intro before node after read sound low begins
  rw [reads_bind] at read
  rcases read with ⟨value, _, valueRead, read⟩
  rcases chain_gives gives head _ _ _ valueRead sound low begins with ⟨leads, fits⟩
  rw [reads_token_bind] at read
  simp only [reads_ite, reads_bind, reads_require, reads_node, reads_pure] at read
  rcases read with ⟨-, _, _, ⟨-, rfl⟩, _, _, advanced, rfl, rfl⟩ | ⟨-, rfl, rfl⟩
  · exact ((Passage.of_fits leads fits.behindStart).advance advanced).nodeBehind rfl fits.starts
  · exact ⟨leads, fits⟩

/-- An operator before its operand. -/
theorem prefixed_gives {kind : Kind} (ordinary : kind.isOrdinary = true)
    (read : Reads (do
      advance
      let value ← recur .unary
      Reader.node kind before.token.start [value]) before node after) (sound : before.Sound) :
    before.Leads after ∧ node.Fits before.token.start after.lastFinish := by
  simp only [reads_bind, reads_node] at read
  rcases read with ⟨_, _, advanced, value, _, valueRead, rfl, rfl⟩
  have begun := Passage.of_advance advanced sound (Nat.le_refl _)
  exact (begun.give (gives _) valueRead).node ordinary

/-- No operator comes before a head that was read already. -/
theorem operand_gives (head : Option Node) : GivesFrom head (operand recur head) := by
  intro before node after read sound low begins
  rw [operand, reads_token_bind] at read
  dsimp only at read
  rw [reads_ite] at read
  rcases read with ⟨-, read⟩ | ⟨alone, read⟩
  · exact plainOperand_gives gives head _ _ _ read sound low begins
  rcases Option.not_isSome_iff_eq_none.mp alone with rfl
  have plain := gives_of_givesFrom (plainOperand_gives gives none) before node after
  suffices within : before.Leads after ∧ node.Fits before.token.start after.lastFinish from
    within.imp_right fun fits => fits.widen begins (Nat.le_refl _)
  split at read
  · rw [reads_ite] at read
    rcases read with ⟨-, read⟩ | ⟨-, read⟩
    · exact prefixed_gives gives rfl read sound
    rw [reads_ite] at read
    rcases read with ⟨-, read⟩ | ⟨-, read⟩
    · rw [reads_bind] at read
      rcases read with ⟨result, _, resultRead, read⟩
      rw [reads_require_bind] at read
      rcases read with ⟨-, read⟩
      rcases reads_pure.mp read with ⟨rfl, rfl⟩
      exact prefixed_gives gives rfl resultRead sound
    · exact plain read sound
  · rw [reads_ite] at read
    rcases read with ⟨-, read⟩ | ⟨-, read⟩
    · exact prefixed_gives gives rfl read sound
    rw [reads_ite] at read
    rcases read with ⟨-, read⟩ | ⟨-, read⟩
    · exact prefixed_gives gives rfl read sound
    · exact plain read sound
  · exact plain read sound

/-- A private name stands for an operand before the word `in` only. -/
theorem operandOrPrivateName_gives (allowsIn : Bool) (head : Option Node) :
    GivesFrom head (operandOrPrivateName recur allowsIn head) := by
  intro before node after read sound low begins
  rw [operandOrPrivateName, reads_token_bind] at read
  split at read
  · simp only [reads_bind, reads_isWord, reads_require, reads_node] at read
    rcases read with ⟨_, _, advanced, _, _, ⟨-, rfl⟩, _, _, ⟨-, rfl⟩, rfl, rfl⟩
    exact (Passage.of_advance advanced sound (Nat.le_refl _)).nodeBehind rfl begins
  · exact operand_gives gives _ _ _ _ read sound low begins

/-- Operands come one after the other, each behind the operator before it. -/
theorem operandsAfter_takes (allowsIn : Bool) (fuel : Nat) :
    (operandsAfter recur allowsIn fuel).Takes fun before operands after =>
      Node.Row before.token.start (operands.map Prod.snd) after.lastFinish ∧
        Node.ArePresent (operands.map Prod.snd) := by
  intro before operands after read sound
  induction fuel generalizing before operands with
  | zero => cases read
  | succ fuel induction =>
      rw [operandsAfter, reads_token_bind] at read
      split at read
      · rcases reads_pure.mp read with ⟨rfl, rfl⟩
        exact ⟨.refl sound, .nil _ _, List.forall_mem_nil _⟩
      · simp only [reads_bind, reads_pure] at read
        rcases read with ⟨_, _, advanced, next, _, nextRead, rest, _, restRead, rfl, rfl⟩
        have begun := Passage.of_advance advanced sound (Nat.le_refl _)
        rcases gives_of_givesFrom (operandOrPrivateName_gives gives allowsIn none) _ _ _ nextRead
          begun.leads.sound with ⟨leads, fits⟩
        rcases induction _ _ restRead leads.sound with ⟨restLeads, row, present⟩
        have passage := (begun.append leads fits.mayFit.row).append restLeads row
        exact ⟨passage.leads, passage.row, List.forall_mem_cons.mpr ⟨fits.present, present⟩⟩

/-- Operands that are grouped stand where they stood before. -/
theorem binaryExpression_gives (allowsIn : Bool) (head : Option Node) :
    GivesFrom head (binaryExpression recur allowsIn head) := by
  intro before node after read sound low begins
  rw [binaryExpression, reads_bind] at read
  rcases read with ⟨left, _, leftRead, read⟩
  rcases operandOrPrivateName_gives gives allowsIn head _ _ _ leftRead sound low begins with
    ⟨leads, fits⟩
  rw [reads_token_bind, reads_bind] at read
  rcases read with ⟨others, _, othersRead, read⟩
  rcases reads_pure.mp read with ⟨rfl, rfl⟩
  rcases operandsAfter_takes gives allowsIn _ _ _ _ othersRead leads.sound with
    ⟨later, row, present⟩
  refine ⟨leads.trans later, ?_⟩
  apply groupOperands_fits _ _ _ present
  · exact fits.behindStart.widen (Nat.le_refl _) later.last
  · exact fits.starts
  · exact row.widen (Nat.le_trans fits.ends leads.sound.behind) (Nat.le_refl _)

/-- A choice between two expressions starts with the condition. -/
theorem conditionalExpression_gives (allowsIn : Bool) (head : Option Node) :
    GivesFrom head (conditionalExpression recur allowsIn head) := by
  intro before node after read sound low begins
  rw [conditionalExpression, reads_bind] at read
  rcases read with ⟨condition, _, conditionRead, read⟩
  rcases binaryExpression_gives gives allowsIn head _ _ _ conditionRead sound low begins with
    ⟨leads, fits⟩
  simp only [reads_bind, reads_ite, reads_node, reads_pure] at read
  rcases read with ⟨_, _, asked, ⟨-, value, _, valueRead, _, _, colon, other, _, otherRead, rfl,
    rfl⟩ | ⟨refused, rfl, rfl⟩⟩
  · have begun := (Passage.of_fits leads fits.behindStart).acceptMark asked
    have chosen := (begun.give (gives _) valueRead).mark colon
    exact (chosen.give (gives _) otherRead).nodeBehind rfl fits.starts
  · cases acceptMark_refused asked refused
    exact ⟨leads, fits⟩

/-- What is assigned to stands where the expression stands that it was turned
from. -/
theorem assignmentAfter_gives (allowsIn : Bool) (head : Option Node) :
    GivesFrom head (assignmentAfter recur allowsIn head) := by
  intro before node after read sound low begins
  rw [assignmentAfter, reads_bind] at read
  rcases read with ⟨left, middle, leftRead, read⟩
  rcases conditionalExpression_gives gives allowsIn head _ _ _ leftRead sound low begins with
    ⟨leads, fits⟩
  rw [reads_token_bind] at read
  split at read
  · rw [reads_ite] at read
    rcases read with ⟨-, read⟩ | ⟨-, read⟩
    · simp only [reads_bind, reads_given, reads_require, reads_node] at read
      rcases read with ⟨target, _, ⟨turned, rfl⟩, _, _, ⟨-, rfl⟩, _, _, advanced, value, _,
        valueRead, rfl, rfl⟩
      have targetFits := (asTarget?_replaces turned).fits fits.behindStart
      have assigned := (Passage.of_fits leads targetFits).advance advanced
      exact (assigned.give (gives _) valueRead).nodeBehind rfl fits.starts
    rw [reads_ite] at read
    rcases read with ⟨-, read⟩ | ⟨-, read⟩
    · simp only [reads_bind, reads_require, reads_node] at read
      rcases read with ⟨_, _, ⟨-, rfl⟩, _, _, advanced, value, _, valueRead, rfl, rfl⟩
      have assigned := (Passage.of_fits leads fits.behindStart).advance advanced
      exact (assigned.give (gives _) valueRead).nodeBehind rfl fits.starts
    · rcases reads_pure.mp read with ⟨rfl, rfl⟩
      exact ⟨leads, fits⟩
  · rcases reads_pure.mp read with ⟨rfl, rfl⟩
    exact ⟨leads, fits⟩

/-- The value of a `yield` may be missing. -/
theorem yieldExpression_gives (allowsIn : Bool) : (yieldExpression recur allowsIn).Gives := by
  intro before node after read sound
  rw [yieldExpression, reads_position_bind, reads_bind] at read
  rcases read with ⟨_, _, word, read⟩
  have begun := Passage.of_word word sound (Nat.le_refl _)
  rw [reads_token_bind] at read
  dsimp only at read
  rw [reads_ite] at read
  rcases read with ⟨-, read⟩ | ⟨-, read⟩
  · rcases reads_node.mp read with ⟨rfl, rfl⟩
    exact begun.absent.node rfl
  · simp only [reads_bind, reads_node] at read
    rcases read with ⟨_, _, star, value, _, valueRead, rfl, rfl⟩
    exact ((begun.acceptMark star).give (gives _) valueRead).node rfl

/-- An arrow tells that what stood in parentheses were parameters. -/
theorem parenthesisStart_gives (allowsIn : Bool) : (parenthesisStart recur allowsIn).Gives := by
  intro before node after read sound
  rw [parenthesisStart, reads_position_bind, reads_bind] at read
  rcases read with ⟨⟨items, commaAtEnd⟩, _, itemsRead, read⟩
  rcases cover_takes gives itemsRead sound with ⟨covered, present⟩
  dsimp only at read
  rw [reads_bind] at read
  rcases read with ⟨_, _, looked, read⟩
  cases atArrow_keeps _ _ _ looked
  rw [reads_ite] at read
  rcases read with ⟨-, read⟩ | ⟨-, read⟩
  · rw [reads_bind] at read
    rcases read with ⟨list, _, listRead, read⟩
    exact arrowFrom_gives gives (parametersNode_takes covered listRead) read
  · rw [reads_bind] at read
    rcases read with ⟨head, _, headRead, read⟩
    rcases parenthesizedFrom_gives covered present headRead with ⟨leads, fits⟩
    have given := assignmentAfter_gives gives allowsIn (some head) _ _ _ read leads.sound _ fits
    exact given.imp_left leads.trans

/-- The word `async` starts a function only if an arrow comes after what it takes for
parameters, and else it is the name of what is called. -/
theorem asyncStart_gives (allowsIn : Bool) : (asyncStart recur allowsIn).Gives := by
  intro before node after read sound
  rw [asyncStart, reads_position_bind, reads_nextToken_bind] at read
  have plain := gives_of_givesFrom (assignmentAfter_gives gives allowsIn none) before node after
  split at read
  · rw [reads_ite] at read
    rcases read with ⟨-, read⟩ | ⟨-, read⟩
    · exact plain read sound
    rw [reads_bind] at read
    rcases read with ⟨_, _, advanced, read⟩
    have begun := Passage.of_advance advanced sound (Nat.le_refl _)
    rw [reads_bind] at read
    rcases read with ⟨single, _, singleRead, read⟩
    rw [reads_node_bind] at read
    rcases boundVariable_gives _ _ _ singleRead begun.leads.sound with ⟨leads, fits⟩
    have single := singleParameter_takes
      ⟨begun.leads.trans leads, fits.widen begun.starts (Nat.le_refl _)⟩
    exact arrowFrom_gives gives single read
  · rw [reads_bind] at read
    rcases read with ⟨_, middle, advanced, read⟩
    have begun := Passage.of_advance advanced sound (Nat.le_refl _)
    rcases begun.identifier "async" with ⟨-, named⟩
    rw [reads_node_bind, reads_bind] at read
    rcases read with ⟨⟨values, commaAtEnd⟩, _, valuesRead, read⟩
    rcases arguments_takes gives valuesRead begun.leads.sound with ⟨passed, filled⟩
    dsimp only at read
    rw [reads_bind] at read
    rcases read with ⟨_, _, looked, read⟩
    cases atArrow_keeps _ _ _ looked
    rw [reads_ite] at read
    rcases read with ⟨-, read⟩ | ⟨-, read⟩
    · rw [reads_bind] at read
      rcases read with ⟨list, _, listRead, read⟩
      have same : before.following.start = middle.token.start := by
        rw [(advance_takes advanced sound).2.2]
      rw [same] at listRead
      have listed := parametersNode_takes passed listRead
      exact arrowFrom_gives gives (begun.concat listed) read
    · rw [reads_node_bind] at read
      have called := (Passage.of_fits begun.leads named).concat passed
      rcases called.call (Nat.lt_of_le_of_lt begun.starts filled) with ⟨leads, fits⟩
      have given := assignmentAfter_gives gives allowsIn (some _) _ _ _ read leads.sound _ fits
      exact given.imp_left leads.trans
  · exact plain read sound

theorem assignmentGoal_gives (allowsIn : Bool) : (assignmentGoal recur allowsIn).Gives := by
  intro before node after read sound
  rw [assignmentGoal, reads_token_bind] at read
  have plain := gives_of_givesFrom (assignmentAfter_gives gives allowsIn none) before node after
  split at read
  · exact parenthesisStart_gives gives allowsIn _ _ _ read sound
  · rw [reads_ite] at read
    rcases read with ⟨-, read⟩ | ⟨-, read⟩
    · exact yieldExpression_gives gives allowsIn _ _ _ read sound
    rw [reads_nextToken_bind, reads_ite] at read
    rcases read with ⟨-, read⟩ | ⟨-, read⟩
    · rw [reads_bind] at read
      rcases read with ⟨single, _, singleRead, read⟩
      rw [reads_node_bind] at read
      have single := singleParameter_takes (boundVariable_gives _ _ _ singleRead sound)
      exact arrowFrom_gives gives single read
    rw [reads_ite] at read
    rcases read with ⟨-, read⟩ | ⟨-, read⟩
    · exact asyncStart_gives gives allowsIn _ _ _ read sound
    · exact plain read sound
  · exact plain read sound

/-- Expressions with commas between them make a sequence. -/
theorem expressionGoal_gives (allowsIn : Bool) : (expressionGoal recur allowsIn).Gives := by
  intro before node after read sound
  rw [expressionGoal, reads_bind] at read
  rcases read with ⟨head, _, headRead, read⟩
  rw [reads_bind] at read
  rcases read with ⟨others, _, othersRead, read⟩
  rcases reads_pure.mp read with ⟨rfl, rfl⟩
  rcases gives _ _ _ _ headRead sound with ⟨leads, fits⟩
  rcases commaList_takes (gives _) _ _ _ othersRead leads.sound with ⟨later, row, present⟩
  have passage := (Passage.of_fits leads fits).append later row
  refine ⟨passage.leads, sequenceNode_fits passage.row ?_ (List.cons_ne_nil head others)⟩
  exact List.forall_mem_cons.mpr ⟨fits.present, present⟩

end ScriptBundle.Script.Reader
