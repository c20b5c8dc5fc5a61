import ScriptBundle.Proofs.Consumption

/-!
# What names, functions and classes give

A production of the grammar reads parts by asking for other goals.  Wherever
these give placed nodes that stand where they were read, the production gives
such a node as well: its parts stand one after the other, since each was read
from where the one before it ended.

This holds with any reader for the goals, so it is shown without the whole
grammar.  A proof opens a production into what its parts read, one case for each
way through it, and follows the passage on which they were read.
-/

namespace ScriptBundle.Script.Reader

variable {start : Nat} {first before after : ReadState} {node : Node}

/-- A name stands where it was read, whichever names may be read there. -/
theorem nameNode_gives {read : Reader String}
    (takes : read.Takes fun before _ after => before.token.start ≤ after.lastFinish) :
    (nameNode read).Gives := by
  intro before node after reads sound
  rw [nameNode, reads_position_bind] at reads
  simp only [reads_bind, reads_node] at reads
  rcases reads with ⟨name, _, named, rfl, rfl⟩
  rcases takes _ _ _ named sound with ⟨leads, started⟩
  exact (Passage.of_leads leads started).node rfl

/-- A string has the value that its token spells. -/
theorem stringToken_gives {text value : String}
    (isString : before.token.kind = .string text value)
    (read : Reads (do
      advance
      Reader.node (.string (some text) value) before.token.start []) before node after)
    (sound : before.Sound) :
    before.Leads after ∧ node.Fits before.token.start after.lastFinish := by
  simp only [reads_bind, reads_node] at read
  rcases read with ⟨_, _, advanced, rfl, rfl⟩
  have spells := sound.token.spelled
  rw [isString, TokenKind.isSpelled_string] at spells
  have begun := Passage.of_advance advanced sound (Nat.le_refl _)
  exact ⟨begun.leads, Node.fits_string spells begun.started⟩

theorem stringNode_gives : stringNode.Gives := by
  intro before node after read sound
  rw [stringNode, reads_position_bind, reads_token_bind] at read
  split at read
  · next isString => exact stringToken_gives isString read sound
  · cases read

/-- A variable is a name, and has no parts of its own. -/
theorem variableNode_gives {read : Reader String}
    (takes : read.Takes fun before _ after => before.token.start ≤ after.lastFinish) :
    Gives (do
      let start ← position
      let name ← read
      Reader.node (.identifier name) start []) := by
  intro before node after reads sound
  rw [reads_position_bind] at reads
  simp only [reads_bind, reads_node] at reads
  rcases reads with ⟨name, _, named, rfl, rfl⟩
  rcases takes _ _ _ named sound with ⟨leads, started⟩
  exact (Passage.of_leads leads started).identifier name

theorem boundVariable_gives : boundVariable.Gives :=
  variableNode_gives boundName_takes

/-- A token that makes a node on its own. -/
theorem tokenNode_gives {kind : Kind} (ordinary : kind.isOrdinary = true)
    (read : Reads (do
      advance
      Reader.node kind before.token.start []) before node after) (sound : before.Sound) :
    before.Leads after ∧ node.Fits before.token.start after.lastFinish := by
  simp only [reads_bind, reads_node] at read
  rcases read with ⟨_, _, advanced, rfl, rfl⟩
  exact (Passage.of_advance advanced sound (Nat.le_refl _)).node ordinary

/-- The comma after an item is not asked for before the mark that closes the
list. -/
theorem separated_gives {close : String} {item : Node}
    (given : first.Leads before ∧ item.Fits start before.lastFinish)
    (read : Reads (do
      if !(← isMark close) then
        expectMark ","
      pure item) before node after) :
    first.Leads after ∧ node.Fits start after.lastFinish := by
  rw [reads_isMark_bind] at read
  simp only [reads_ite, reads_bind, reads_pure] at read
  rcases read with ⟨-, _, _, comma, rfl, rfl⟩ | ⟨-, rfl, rfl⟩
  · exact follow_given given (expectMark_takes comma given.1.sound).1
  · exact given

/-- An item is told with whether a comma came after it. -/
theorem withComma_gives {close : String} {item : Node} {result : Node × Bool}
    (given : first.Leads before ∧ item.Fits start before.lastFinish)
    (read : Reads (do
      if ← isMark close then
        pure (item, false)
      else
        expectMark ","
        pure (item, true)) before result after) :
    first.Leads after ∧ result.1.Fits start after.lastFinish := by
  rw [reads_isMark_bind] at read
  simp only [reads_ite, reads_bind, reads_pure] at read
  rcases read with ⟨-, rfl, rfl⟩ | ⟨-, _, _, comma, rfl, rfl⟩
  · exact given
  · exact follow_given given (expectMark_takes comma given.1.sound).1

variable {recur : Recur} (gives : ∀ goal, (recur goal).Gives)
include gives

/-- A key is a token, or an expression in brackets. -/
theorem propertyKey_gives (allowsPrivate : Bool) : (propertyKey recur allowsPrivate).Gives := by
  intro before node after read sound
  rw [propertyKey, reads_position_bind, reads_token_bind] at read
  split at read
  · exact tokenNode_gives rfl read sound
  · next isString => exact stringToken_gives isString read sound
  · exact tokenNode_gives rfl read sound
  · exact tokenNode_gives rfl read sound
  · rcases reads_require_bind.mp read with ⟨-, read⟩
    exact tokenNode_gives rfl read sound
  · simp only [reads_bind, reads_node] at read
    rcases read with ⟨_, _, advanced, key, _, keyRead, _, _, closes, rfl, rfl⟩
    have begun := Passage.of_advance advanced sound (Nat.le_refl _)
    exact ((begun.give (gives _) keyRead).mark closes).node rfl
  · cases read

/-- The value that a binding has by default comes after it. -/
theorem bindingWithDefault_gives : (bindingWithDefault recur).Gives := by
  intro before node after read sound
  rw [bindingWithDefault, reads_position_bind] at read
  simp only [reads_bind, reads_ite, reads_node, reads_pure] at read
  rcases read with ⟨target, _, targetRead, _, _, sign,
    ⟨-, value, _, valueRead, rfl, rfl⟩ | ⟨refused, rfl, rfl⟩⟩
  · have bound := Passage.of_give (gives _) targetRead sound (Nat.le_refl _)
    exact ((bound.acceptMark sign).give (gives _) valueRead).node rfl
  · cases acceptMark_refused sign refused
    exact gives _ _ _ _ targetRead sound

/-- The mark that closes the list is looked for after the rest, and not taken. -/
theorem restBinding_gives (close : String) : (restBinding recur close).Gives := by
  intro before node after read sound
  rw [restBinding, reads_position_bind] at read
  simp only [reads_bind, reads_node, reads_isMark, reads_require, reads_pure] at read
  rcases read with ⟨_, _, dots, target, bound, targetRead, _, _, ⟨rfl, rfl⟩, _, _, ⟨-, rfl⟩,
    _, _, ⟨-, rfl⟩, rfl, rfl⟩
  have begun := Passage.of_mark dots sound (Nat.le_refl _)
  exact (begun.give (gives _) targetRead).node rfl

/-- An item of a pattern for lists may be missing. -/
theorem arrayBindingItem_takes : (arrayBindingItem recur).Takes fun before node after =>
    node.MayFit before.token.start after.lastFinish := by
  intro before node after read sound
  rw [arrayBindingItem, reads_bind] at read
  rcases read with ⟨_, middle, comma, read⟩
  rcases reads_ite.mp read with ⟨-, read⟩ | ⟨refused, read⟩
  · rcases reads_pure.mp read with ⟨rfl, rfl⟩
    exact ⟨acceptMark_leads comma sound, Node.mayFit_absent _ _⟩
  · cases acceptMark_refused comma refused
    rw [reads_isMark_bind] at read
    rcases reads_ite.mp read with ⟨-, read⟩ | ⟨-, read⟩
    · rcases restBinding_gives gives "]" _ _ _ read sound with ⟨leads, fits⟩
      exact ⟨leads, fits.mayFit⟩
    · rcases reads_bind.mp read with ⟨item, _, itemRead, read⟩
      have given := bindingWithDefault_gives gives _ _ _ itemRead sound
      rcases separated_gives given read with ⟨leads, fits⟩
      exact ⟨leads, fits.mayFit⟩

/-- A key without a target of its own is the variable that gets the value. -/
theorem objectBindingItem_gives : (objectBindingItem recur).Gives := by
  intro before node after read sound
  rw [objectBindingItem, reads_position_bind, reads_bind] at read
  rcases read with ⟨_, _, dots, read⟩
  rw [reads_ite] at read
  rcases read with ⟨accepted, read⟩ | ⟨refused, read⟩
  · simp only [reads_bind, reads_node, reads_isMark, reads_require, reads_pure] at read
    rcases read with ⟨target, _, targetRead, _, _, ⟨rfl, rfl⟩, _, _, ⟨-, rfl⟩,
      _, _, ⟨-, rfl⟩, rfl, rfl⟩
    have begun := Passage.of_accepted dots accepted sound (Nat.le_refl _)
    exact (begun.give boundVariable_gives targetRead).node rfl
  cases acceptMark_refused dots refused
  rw [reads_token_bind] at read
  dsimp only at read
  rw [reads_bind] at read
  rcases read with ⟨key, _, keyRead, read⟩
  rcases propertyKey_gives gives false _ _ _ keyRead sound with ⟨leads, keyFits⟩
  rw [reads_bind] at read
  rcases read with ⟨_, _, colon, read⟩
  rw [reads_ite] at read
  rcases read with ⟨-, read⟩ | ⟨refused, read⟩
  · rw [reads_bind] at read
    rcases read with ⟨target, _, targetRead, read⟩
    rw [reads_node_bind] at read
    have keyed := (Passage.of_fits leads keyFits).acceptMark colon
    have complete := keyed.give (bindingWithDefault_gives gives) targetRead
    exact separated_gives (complete.node rfl) read
  cases acceptMark_refused colon refused
  rw [reads_require_bind] at read
  rcases read with ⟨-, read⟩
  split at read
  · next name _ =>
    rw [reads_require_bind, reads_bind] at read
    rcases read with ⟨-, _, _, sign, read⟩
    have named := (Passage.of_fits leads (keyFits.asVariable name)).acceptMark sign
    rw [reads_ite] at read
    rcases read with ⟨-, read⟩ | ⟨-, read⟩
    · rw [reads_bind] at read
      rcases read with ⟨value, _, valueRead, read⟩
      rw [reads_node_bind] at read
      exact separated_gives ((named.give (gives _) valueRead).node rfl) read
    · rw [reads_node_bind] at read
      exact separated_gives (named.absent.node rfl) read
  · rw [reads_bind] at read
    rcases read with ⟨_, _, impossible, -⟩
    cases impossible

/-- A pattern is a variable, or a list or an object of patterns. -/
theorem bindingGoal_gives : (bindingGoal recur).Gives := by
  intro before node after read sound
  rw [bindingGoal, reads_position_bind] at read
  simp only [reads_bind, reads_ite, reads_node] at read
  rcases read with ⟨_, _, opens, ⟨accepted, items, _, itemsRead, _, _, closes, rfl, rfl⟩ |
    ⟨refused, _, _, braces, rest⟩⟩
  · have begun := Passage.of_accepted opens accepted sound (Nat.le_refl _)
    rcases manyUntil_mayGive (isMark_keeps "]") (arrayBindingItem_takes gives) _ _ _ itemsRead
      begun.leads.sound with ⟨leads, row⟩
    exact ((begun.append leads row).mark closes).node rfl
  · cases acceptMark_refused opens refused
    rcases rest with ⟨accepted, properties, _, propertiesRead, _, _, closes, rfl, rfl⟩ |
      ⟨refused, variableRead⟩
    · have begun := Passage.of_accepted braces accepted sound (Nat.le_refl _)
      rcases manyUntil_gives (isMark_keeps "\x7d") (objectBindingItem_gives gives) _ _ _
        propertiesRead begun.leads.sound with ⟨leads, row, -⟩
      exact ((begun.append leads row).mark closes).node rfl
    · cases acceptMark_refused braces refused
      exact boundVariable_gives _ _ _ variableRead sound

theorem parameter_gives : (parameter recur).Gives := by
  intro before node after read sound
  rw [parameter, reads_isMark_bind] at read
  rcases reads_ite.mp read with ⟨-, read⟩ | ⟨-, read⟩
  · exact restBinding_gives gives ")" _ _ _ read sound
  · rcases reads_bind.mp read with ⟨item, _, itemRead, read⟩
    exact separated_gives (bindingWithDefault_gives gives _ _ _ itemRead sound) read

theorem parameters_gives : (parameters recur).Gives := by
  intro before node after read sound
  rw [parameters, reads_position_bind] at read
  simp only [reads_bind, reads_node] at read
  rcases read with ⟨_, _, opens, items, _, itemsRead, _, _, closes, rfl, rfl⟩
  have begun := Passage.of_mark opens sound (Nat.le_refl _)
  rcases manyUntil_gives (isMark_keeps ")") (parameter_gives gives) _ _ _ itemsRead
    begun.leads.sound with ⟨leads, row, -⟩
  exact ((begun.append leads row).mark closes).node rfl

theorem blockOf_gives : (blockOf recur).Gives := by
  intro before node after read sound
  rw [blockOf, reads_position_bind] at read
  simp only [reads_bind, reads_node] at read
  rcases read with ⟨_, _, opens, statements, _, statementsRead, _, _, closes, rfl, rfl⟩
  have begun := Passage.of_mark opens sound (Nat.le_refl _)
  rcases manyUntil_gives (isMark_keeps "\x7d") (gives (.statement true)) _ _ _ statementsRead
    begun.leads.sound with ⟨leads, row, -⟩
  exact ((begun.append leads row).mark closes).node rfl

/-- A function may start before its word, with the word `async`. -/
theorem functionFrom_gives {isAsync needsName : Bool}
    (read : (functionFrom recur start isAsync needsName).Reads before node after)
    (sound : before.Sound) (starts : start ≤ before.token.start) :
    before.Leads after ∧ node.Fits start after.lastFinish := by
  simp only [functionFrom, reads_bind, reads_isMark, reads_ite, reads_pure, reads_node] at read
  rcases read with ⟨_, _, word, isGenerator, _, star, _, _, ⟨-, rfl⟩, read⟩
  have begun := (Passage.of_word word sound starts).acceptMark star
  rcases read with ⟨-, _, _, ⟨rfl, rfl⟩, list, _, listRead, body, _, bodyRead, rfl, rfl⟩ |
    ⟨-, name, _, nameRead, list, _, listRead, body, _, bodyRead, rfl, rfl⟩
  · have listed := begun.absent.give (parameters_gives gives) listRead
    exact (listed.give (blockOf_gives gives) bodyRead).node rfl
  · have named := begun.give (nameNode_gives boundName_takes) nameRead
    have listed := named.give (parameters_gives gives) listRead
    exact (listed.give (blockOf_gives gives) bodyRead).node rfl

/-- What stands before the arrow was read before. -/
theorem arrowFrom_gives {isAsync allowsIn : Bool} {list : Node}
    (passage : Passage start first [list] before)
    (read : (arrowFrom recur start isAsync allowsIn list).Reads before node after) :
    first.Leads after ∧ node.Fits start after.lastFinish := by
  rw [arrowFrom, reads_token_bind] at read
  simp only [reads_bind, reads_require, reads_isMark, reads_ite, reads_node] at read
  rcases read with ⟨_, _, ⟨-, rfl⟩, _, _, arrow, _, _, ⟨-, rfl⟩,
    ⟨-, body, _, bodyRead, rfl, rfl⟩ | ⟨-, body, _, bodyRead, rfl, rfl⟩⟩
  · exact ((passage.mark arrow).give (blockOf_gives gives) bodyRead).node rfl
  · exact ((passage.mark arrow).give (gives _) bodyRead).node rfl

/-- The parameters and the body of a method come after its key. -/
theorem methodParts_takes {passed parts : List Node} (passage : Passage start first passed before)
    (read : (methodParts recur).Reads before parts after) :
    Passage start first (passed ++ parts) after := by
  simp only [methodParts, reads_bind, reads_pure] at read
  rcases read with ⟨list, _, listRead, body, _, bodyRead, rfl, rfl⟩
  have listed := passage.give (parameters_gives gives) listRead
  simpa using listed.give (blockOf_gives gives) bodyRead

/-- A member of a class starts before the words that come before its key. -/
theorem memberFrom_gives {begun : MemberStart}
    (read : (memberFrom recur start begun).Reads before node after) (sound : before.Sound)
    (starts : start ≤ before.token.start) :
    before.Leads after ∧ node.Fits start after.lastFinish := by
  rw [memberFrom, reads_bind] at read
  rcases read with ⟨key, _, keyRead, read⟩
  have keyed := Passage.of_give (propertyKey_gives gives true) keyRead sound starts
  rw [reads_isMark_bind, reads_ite] at read
  simp only [reads_bind, reads_require, reads_ite, reads_pure, reads_node] at read
  rcases read with ⟨-, _, _, ⟨-, rfl⟩, parts, _, partsRead, _, _, ⟨-, rfl⟩, rfl, rfl⟩ |
    ⟨-, _, _, ⟨-, rfl⟩, _, _, ⟨-, rfl⟩, _, _, sign, read⟩
  · refine (methodParts_takes gives keyed partsRead).node ?_
    split <;> rfl
  · rcases read with ⟨-, value, _, valueRead, _, _, ending, rfl, rfl⟩ |
      ⟨-, _, _, ⟨rfl, rfl⟩, _, _, ending, rfl, rfl⟩
    · exact (((keyed.acceptMark sign).give (gives _) valueRead).endStatement ending).node rfl
    · exact ((keyed.acceptMark sign).absent.endStatement ending).node rfl

/-- The word `static` belongs to a member, unless it is its key. -/
theorem classMember_gives : (classMember recur).Gives := by
  intro before node after read sound
  rw [classMember, reads_position_bind] at read
  simp only [reads_bind, reads_ite, reads_isWord, reads_isMark, reads_nextToken, reads_node] at read
  rcases read with ⟨_, _, semicolon, ⟨accepted, rfl, rfl⟩ |
    ⟨refused, _, _, ⟨-, rfl⟩, _, _, ⟨-, rfl⟩, read⟩⟩
  · exact (Passage.of_accepted semicolon accepted sound (Nat.le_refl _)).node rfl
  cases acceptMark_refused semicolon refused
  rcases read with ⟨-, _, _, advanced, _, _, ⟨-, rfl⟩, read⟩ |
    ⟨-, begun, _, startRead, memberRead⟩
  · have opened := Passage.of_advance advanced sound (Nat.le_refl _)
    rcases read with ⟨-, body, _, bodyRead, rfl, rfl⟩ | ⟨-, begun, _, startRead, memberRead⟩
    · exact (opened.give (blockOf_gives gives) bodyRead).node rfl
    · have begins := opened.follow (memberStart_leads startRead opened.leads.sound)
      rcases memberFrom_gives gives memberRead begins.leads.sound begins.starts with ⟨leads, fits⟩
      exact ⟨begins.leads.trans leads, fits⟩
  · have begins := memberStart_leads startRead sound
    rcases memberFrom_gives gives memberRead begins.sound begins.start with ⟨leads, fits⟩
    exact ⟨begins.trans leads, fits⟩

/-- The body of a class stands behind what the class extends, though it is
visited before. -/
theorem classBody_gives {name superclass : Node}
    (passage : Passage start first [name, superclass] before)
    (read : Reads (do
      let bodyStart ← position
      expectMark "\x7b"
      let members ← manyUntil (isMark "\x7d") (classMember recur)
      expectMark "\x7d"
      let body ← Reader.node .classBody bodyStart members
      Reader.node .classLike start [name, body, superclass]) before node after) :
    first.Leads after ∧ node.Fits start after.lastFinish := by
  rw [reads_position_bind] at read
  simp only [reads_bind, reads_node] at read
  rcases read with ⟨_, _, opens, members, _, membersRead, _, _, closes, _, _, ⟨rfl, rfl⟩, rfl, rfl⟩
  have begun := Passage.of_mark opens passage.leads.sound (Nat.le_refl _)
  rcases manyUntil_gives (isMark_keeps "\x7d") (classMember_gives gives) _ _ _ membersRead
    begun.leads.sound with ⟨leads, row, -⟩
  have inside := (begun.append leads row).mark closes
  have body : Passage _ _ [.mk .classBody _ _ _] _ := inside.wrap rfl
  exact (passage.concat body).classLike

/-- What a class extends may be left out. -/
theorem classHeritage_gives {name : Node} (passage : Passage start first [name] before)
    (read : Reads (do
      let superclass ←
        if ← acceptWord "extends" then recur .leftHandSide else pure Node.absent
      let bodyStart ← position
      expectMark "\x7b"
      let members ← manyUntil (isMark "\x7d") (classMember recur)
      expectMark "\x7d"
      let body ← Reader.node .classBody bodyStart members
      Reader.node .classLike start [name, body, superclass]) before node after) :
    first.Leads after ∧ node.Fits start after.lastFinish := by
  rw [reads_bind] at read
  rcases read with ⟨_, _, extending, read⟩
  have extended := passage.acceptWord extending
  rw [reads_ite] at read
  rcases read with ⟨-, read⟩ | ⟨-, read⟩
  · rw [reads_bind] at read
    rcases read with ⟨superclass, _, superclassRead, read⟩
    exact classBody_gives gives (extended.give (gives _) superclassRead) read
  · rw [reads_bind] at read
    rcases read with ⟨_, _, missing, read⟩
    rcases reads_pure.mp missing with ⟨rfl, rfl⟩
    exact classBody_gives gives extended.absent read

/-- The name of a class may be missing where none is needed. -/
theorem classFrom_gives (needsName : Bool) : (classFrom recur needsName).Gives := by
  intro before node after read sound
  rw [classFrom, reads_position_bind, reads_bind] at read
  rcases read with ⟨_, _, word, read⟩
  have begun := Passage.of_word word sound (Nat.le_refl _)
  rw [reads_isWord_bind, reads_isMark_bind, reads_ite] at read
  rcases read with ⟨-, read⟩ | ⟨-, read⟩
  · rw [reads_bind] at read
    rcases read with ⟨_, _, missing, read⟩
    rcases reads_pure.mp missing with ⟨rfl, rfl⟩
    exact classHeritage_gives gives begun.absent read
  · rw [reads_bind] at read
    rcases read with ⟨name, _, nameRead, read⟩
    exact classHeritage_gives gives (begun.give (nameNode_gives boundName_takes) nameRead) read

end ScriptBundle.Script.Reader
