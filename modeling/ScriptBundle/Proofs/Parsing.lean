import ScriptBundle.Proofs.Expression
import ScriptBundle.Script.Rules

/-!
# What statements and scripts give

Statements, imports and exports give placed nodes that stand where they were
read, and so does the grammar as a whole.  The tree of a script that was read is
placed.

What stands before a statement of a kind, such as the word of a loop, may have
been read by another production.  Such a statement is told by the passage on which
that was read.
-/

namespace ScriptBundle.Script

namespace Reader

variable {start : Nat} {first before after : ReadState} {node : Node} {parts : List Node}

/-- What modules share is named by a name or by a string. -/
theorem sharedName_gives : sharedName.Gives := by
  intro before node after read sound
  rw [sharedName, reads_token_bind] at read
  split at read
  · exact stringNode_gives _ _ _ read sound
  · exact nameNode_gives anyName_takes _ _ _ read sound

/-- The string that names a module stands behind the word before it. -/
theorem sourceClause_gives : sourceClause.Gives := by
  intro before node after read sound
  simp only [sourceClause, reads_bind, reads_pure] at read
  rcases read with ⟨_, _, word, source, _, sourceRead, _, _, ending, rfl, rfl⟩
  have given := (Passage.of_word word sound (Nat.le_refl _)).reach stringNode_gives sourceRead
  exact follow_given given (endStatement_leads ending given.1.sound)

theorem specifierList_gives {specifier : Reader Node} (gives : specifier.Gives) :
    (specifierList specifier).Gives := by
  intro before node after read sound
  rw [specifierList, reads_position_bind] at read
  simp only [reads_bind, reads_node] at read
  rcases read with ⟨_, _, opens, items, _, itemsRead, _, _, closes, rfl, rfl⟩
  have begun := Passage.of_mark opens sound (Nat.le_refl _)
  have itemGives : Gives (do
      let item ← specifier
      if !(← isMark "\x7d") then
        expectMark ","
      pure item) := by
    intro before node after read sound
    rw [reads_bind] at read
    rcases read with ⟨item, _, itemRead, read⟩
    exact separated_gives (gives _ _ _ itemRead sound) read
  rcases manyUntil_gives (isMark_keeps "\x7d") itemGives _ _ _ itemsRead begun.leads.sound with
    ⟨leads, row, -⟩
  exact ((begun.append leads row).mark closes).node rfl

/-- What is imported may get a name of its own. -/
theorem importSpecifier_gives : importSpecifier.Gives := by
  intro before node after read sound
  rw [importSpecifier, reads_position_bind, reads_bind] at read
  rcases read with ⟨name, _, nameRead, read⟩
  have named := Passage.of_give sharedName_gives nameRead sound (Nat.le_refl _)
  rw [reads_bind] at read
  rcases read with ⟨_, _, word, read⟩
  have renamed := named.acceptWord word
  rw [reads_ite] at read
  rcases read with ⟨-, read⟩ | ⟨-, read⟩
  · simp only [reads_bind, reads_node] at read
    rcases read with ⟨bound, _, boundRead, rfl, rfl⟩
    exact (renamed.give boundVariable_gives boundRead).node rfl
  · split at read
    · simp only [reads_bind, reads_require, reads_node] at read
      rcases read with ⟨_, _, ⟨-, rfl⟩, rfl, rfl⟩
      exact renamed.absent.node rfl
    · cases read

/-- One name for all that is imported, or a list of names. -/
theorem importedNames_takes {names : Node × Node} (passage : Passage start first parts before)
    (read : importedNames.Reads before names after) :
    Passage start first (parts ++ [names.1, names.2]) after := by
  simp only [importedNames, reads_bind, reads_ite, reads_pure] at read
  rcases read with ⟨_, _, star, read⟩
  have begun := passage.acceptMark star
  rcases read with ⟨-, _, _, word, bound, _, boundRead, rfl, rfl⟩ | ⟨-, list, _, listRead, rfl, rfl⟩
  · simpa using ((begun.word word).give boundVariable_gives boundRead).absent
  · simpa using begun.absent.give (specifierList_gives importSpecifier_gives) listRead

/-- An import has its default, all of a module and its names, before the module. -/
theorem importItem_gives : importItem.Gives := by
  intro before node after read sound
  rw [importItem, reads_position_bind, reads_bind] at read
  rcases read with ⟨_, _, word, read⟩
  have begun := Passage.of_word word sound (Nat.le_refl _)
  rw [reads_token_bind] at read
  split at read
  · simp only [reads_bind, reads_node] at read
    rcases read with ⟨source, _, sourceRead, _, _, ending, rfl, rfl⟩
    have sourced := begun.absent.absent.absent.give stringNode_gives sourceRead
    exact (sourced.endStatement ending).node rfl
  · simp only [reads_bind, reads_ite, reads_pure, reads_node] at read
    rcases read with ⟨default, _, defaultRead, _, _, comma, read⟩
    have named := (begun.give boundVariable_gives defaultRead).acceptMark comma
    rcases read with ⟨-, ⟨whole, names⟩, _, namesRead, source, _, sourceRead, rfl, rfl⟩ |
      ⟨-, _, _, ⟨rfl, rfl⟩, source, _, sourceRead, rfl, rfl⟩
    · exact ((importedNames_takes named namesRead).give sourceClause_gives sourceRead).node rfl
    · exact (named.absent.absent.give sourceClause_gives sourceRead).node rfl
  · simp only [reads_bind, reads_node] at read
    rcases read with ⟨⟨whole, names⟩, _, namesRead, source, _, sourceRead, rfl, rfl⟩
    have imported := importedNames_takes begun.absent namesRead
    exact (imported.give sourceClause_gives sourceRead).node rfl

theorem exportSpecifier_gives : exportSpecifier.Gives := by
  intro before node after read sound
  rw [exportSpecifier, reads_position_bind] at read
  simp only [reads_bind, reads_ite, reads_pure, reads_node] at read
  rcases read with ⟨name, _, nameRead, _, _, word, read⟩
  have named := (Passage.of_give sharedName_gives nameRead sound (Nat.le_refl _)).acceptWord word
  rcases read with ⟨-, other, _, otherRead, rfl, rfl⟩ | ⟨-, _, _, ⟨rfl, rfl⟩, rfl, rfl⟩
  · exact (named.give sharedName_gives otherRead).node rfl
  · exact named.absent.node rfl

/-- All that a module gives away may get one name. -/
theorem exportStar_gives (passage : Passage start first [] before)
    (read : (exportStar start).Reads before node after) :
    first.Leads after ∧ node.Fits start after.lastFinish := by
  simp only [exportStar, reads_bind, reads_ite, reads_node] at read
  rcases read with ⟨_, _, word, read⟩
  have begun := passage.acceptWord word
  rcases read with ⟨-, name, _, nameRead, source, _, sourceRead, rfl, rfl⟩ |
    ⟨-, source, _, sourceRead, rfl, rfl⟩
  · have named := (begun.give sharedName_gives nameRead).absent
    exact (named.give sourceClause_gives sourceRead).node rfl
  · exact (begun.give sourceClause_gives sourceRead).node rfl

/-- The names of an export may be those of another module. -/
theorem exportList_gives (passage : Passage start first [] before)
    (read : (exportList start).Reads before node after) :
    first.Leads after ∧ node.Fits start after.lastFinish := by
  simp only [exportList, reads_bind, reads_isWord, reads_ite, reads_require, reads_node] at read
  rcases read with ⟨names, _, namesRead, _, _, ⟨-, rfl⟩, read⟩
  have listed := passage.absent.give (specifierList_gives exportSpecifier_gives) namesRead
  rcases read with ⟨-, source, _, sourceRead, rfl, rfl⟩ |
    ⟨-, _, _, ⟨-, rfl⟩, _, _, ending, rfl, rfl⟩
  · exact (listed.give sourceClause_gives sourceRead).node rfl
  · exact (listed.endStatement ending).absent.node rfl

section

variable {recur : Recur} (gives : ∀ goal, (recur goal).Gives)
include gives

/-! ## Variables and loops -/

/-- The parentheses around a condition do not belong to it. -/
theorem condition_gives : (condition recur).Gives := by
  intro before node after read sound
  simp only [condition, reads_bind, reads_pure] at read
  rcases read with ⟨_, _, opens, value, _, valueRead, _, _, closes, rfl, rfl⟩
  have given := (Passage.of_mark opens sound (Nat.le_refl _)).reach (gives _) valueRead
  exact follow_given given (expectMark_takes closes given.1.sound).1

/-- An expression that may be missing before a mark. -/
theorem expressionBefore_takes {close : String} (passage : Passage start first parts before)
    (read : (expressionBefore recur close).Reads before node after) :
    Passage start first (parts ++ [node]) after := by
  rw [expressionBefore, reads_isMark_bind, reads_ite] at read
  rcases read with ⟨-, read⟩ | ⟨-, read⟩
  · rcases reads_pure.mp read with ⟨rfl, rfl⟩
    exact passage.absent
  · exact passage.give (gives _) read

/-- A variable that is declared may have no value. -/
theorem declarator_gives (keyword : String) (inHead : Bool) :
    (declarator recur keyword inHead).Gives := by
  intro before node after read sound
  rw [declarator, reads_position_bind] at read
  simp only [reads_bind, reads_ite, reads_isWord, reads_require, reads_node] at read
  rcases read with ⟨target, _, targetRead, _, _, sign, read⟩
  have bound := (Passage.of_give (gives _) targetRead sound (Nat.le_refl _)).acceptMark sign
  rcases read with ⟨-, value, _, valueRead, rfl, rfl⟩ |
    ⟨-, _, _, ⟨-, rfl⟩, _, _, ⟨-, rfl⟩, _, _, ⟨-, rfl⟩, rfl, rfl⟩
  · exact (bound.give (gives _) valueRead).node rfl
  · exact bound.absent.node rfl

/-- Variables stand behind the word that declares them. -/
theorem declarators_takes {inHead : Bool} {declared : String × List Node}
    (read : (declarators recur inHead).Reads before declared after) (sound : before.Sound) :
    Passage before.token.start before declared.2 after := by
  simp only [declarators, reads_bind, reads_pure] at read
  rcases read with ⟨keyword, _, word, head, _, headRead, others, _, othersRead, rfl, rfl⟩
  rcases anyName_takes _ _ _ word sound with ⟨leads, started⟩
  have each := declarator_gives gives keyword inHead
  have begun := (Passage.of_leads leads started).give each headRead
  rcases commaList_takes each _ _ _ othersRead begun.leads.sound with ⟨later, row, -⟩
  exact begun.append later row

theorem variablesStatement_gives : (variablesStatement recur).Gives := by
  intro before node after read sound
  rw [variablesStatement, reads_position_bind] at read
  simp only [reads_bind, reads_node] at read
  rcases read with ⟨⟨keyword, declared⟩, _, declaredRead, _, _, ending, rfl, rfl⟩
  exact ((declarators_takes gives declaredRead sound).endStatement ending).node rfl

theorem loopBody_gives : (loopBody recur).Gives := by
  intro before node after read sound
  rw [loopBody, reads_bind] at read
  rcases read with ⟨_, _, closes, bodyRead⟩
  exact (Passage.of_mark closes sound (Nat.le_refl _)).reach (gives _) bodyRead

/-- A loop over items or keys goes on behind its target. -/
theorem loopOver_gives {awaits : Bool} {target : Node}
    (passage : Passage start first [target] before)
    (read : (loopOver recur start awaits target).Reads before node after) :
    first.Leads after ∧ node.Fits start after.lastFinish := by
  simp only [loopOver, reads_bind, reads_ite, reads_require, reads_node] at read
  rcases read with ⟨_, _, word, read⟩
  have begun := passage.acceptWord word
  rcases read with ⟨-, items, _, itemsRead, body, _, bodyRead, rfl, rfl⟩ |
    ⟨-, _, _, otherWord, _, _, ⟨-, rfl⟩, object, _, objectRead, body, _, bodyRead, rfl, rfl⟩
  · exact ((begun.give (gives _) itemsRead).give (loopBody_gives gives) bodyRead).node rfl
  · have within := (begun.word otherWord).give (gives _) objectRead
    exact (within.give (loopBody_gives gives) bodyRead).node rfl

/-- Each of the three parts in the head of a loop may be missing. -/
theorem countingLoop_gives {head : Node} (passage : Passage start first [head] before)
    (read : (countingLoop recur start head).Reads before node after) :
    first.Leads after ∧ node.Fits start after.lastFinish := by
  simp only [countingLoop, reads_bind, reads_node] at read
  rcases read with ⟨_, _, headEnds, test, _, testRead, _, _, testEnds, update, _, updateRead,
    body, _, bodyRead, rfl, rfl⟩
  have tested := expressionBefore_takes gives (passage.mark headEnds) testRead
  have updated := expressionBefore_takes gives (tested.mark testEnds) updateRead
  exact (updated.give (loopBody_gives gives) bodyRead).node rfl

/-- The variables of a loop are declared in a node of their own. -/
theorem loopWithVariables_gives {awaits : Bool} (passage : Passage start first [] before)
    (read : (loopWithVariables recur start awaits).Reads before node after) :
    first.Leads after ∧ node.Fits start after.lastFinish := by
  rw [loopWithVariables, reads_position_bind, reads_bind] at read
  rcases read with ⟨⟨keyword, declared⟩, _, declaredRead, read⟩
  have listed := declarators_takes gives declaredRead passage.leads.sound
  have head : Passage _ _ [.mk (.variables keyword) _ _ _] _ := listed.wrap rfl
  have begun := passage.concat head
  dsimp only at read
  rw [reads_node_bind, reads_bind] at read
  rcases read with ⟨_, _, looked, read⟩
  cases atLoopWord_keeps _ _ _ looked
  rw [reads_ite] at read
  rcases read with ⟨-, read⟩ | ⟨-, read⟩
  · rcases reads_require_bind.mp read with ⟨-, loopRead⟩
    exact loopOver_gives gives begun loopRead
  · rcases reads_require_bind.mp read with ⟨-, loopRead⟩
    exact countingLoop_gives gives begun loopRead

/-- What a loop assigns to was an expression first. -/
theorem loopWithExpression_gives {awaits : Bool} (passage : Passage start first [] before)
    (read : (loopWithExpression recur start awaits).Reads before node after) :
    first.Leads after ∧ node.Fits start after.lastFinish := by
  rw [loopWithExpression, reads_isWord_bind, reads_bind] at read
  rcases read with ⟨head, _, headRead, read⟩
  rcases gives _ _ _ _ headRead passage.leads.sound with ⟨leads, fits⟩
  rw [reads_bind] at read
  rcases read with ⟨_, _, looked, read⟩
  cases atLoopWord_keeps _ _ _ looked
  rw [reads_ite] at read
  rcases read with ⟨-, read⟩ | ⟨-, read⟩
  · rw [reads_isWord_bind, reads_require_bind, reads_bind] at read
    rcases read with ⟨-, target, _, turnedRead, read⟩
    rcases reads_given.mp turnedRead with ⟨turned, rfl⟩
    rcases reads_require_bind.mp read with ⟨-, loopRead⟩
    have targetFits := (asTarget?_replaces turned).fits fits
    exact loopOver_gives gives (passage.append leads targetFits.mayFit.row) loopRead
  · rcases reads_require_bind.mp read with ⟨-, loopRead⟩
    exact countingLoop_gives gives (passage.append leads fits.mayFit.row) loopRead

theorem forLoop_gives : (forLoop recur).Gives := by
  intro before node after read sound
  rw [forLoop, reads_position_bind] at read
  simp only [reads_bind, reads_isMark, reads_isWord, reads_ite, reads_require] at read
  rcases read with ⟨_, _, word, _, _, awaiting, _, _, opens, _, _, ⟨-, rfl⟩, read⟩
  have begun := ((Passage.of_word word sound (Nat.le_refl _)).acceptWord awaiting).mark opens
  rcases read with ⟨-, _, _, ⟨-, rfl⟩, loopRead⟩ | ⟨-, _, _, ⟨-, rfl⟩, _, _, ⟨-, rfl⟩, _, _,
    ⟨-, rfl⟩, ⟨-, loopRead⟩ | ⟨-, loopRead⟩⟩
  · exact countingLoop_gives gives begun.absent loopRead
  · exact loopWithVariables_gives gives begun loopRead
  · exact loopWithExpression_gives gives begun loopRead

theorem whileLoop_gives : (whileLoop recur).Gives := by
  intro before node after read sound
  rw [whileLoop, reads_position_bind] at read
  simp only [reads_bind, reads_node] at read
  rcases read with ⟨_, _, word, test, _, testRead, body, _, bodyRead, rfl, rfl⟩
  have begun := Passage.of_word word sound (Nat.le_refl _)
  exact ((begun.give (condition_gives gives) testRead).give (gives _) bodyRead).node rfl

/-- The condition of a `do` loop stands behind its body, though it is visited
first. -/
theorem doLoop_gives : (doLoop recur).Gives := by
  intro before node after read sound
  rw [doLoop, reads_position_bind] at read
  simp only [reads_bind, reads_node] at read
  rcases read with ⟨_, _, word, body, _, bodyRead, _, _, otherWord, test, _, testRead, _, _, ending,
    rfl, rfl⟩
  have begun := Passage.of_word word sound (Nat.le_refl _)
  have tested := ((begun.give (gives _) bodyRead).word otherWord).give (condition_gives gives)
    testRead
  exact (tested.acceptMark ending).doLoop

/-- A choice may have no alternative. -/
theorem ifChoice_gives : (ifChoice recur).Gives := by
  intro before node after read sound
  rw [ifChoice, reads_position_bind] at read
  simp only [reads_bind, reads_ite, reads_pure, reads_node] at read
  rcases read with ⟨_, _, word, test, _, testRead, consequence, _, consequenceRead, _, _, otherWord,
    read⟩
  have begun := Passage.of_word word sound (Nat.le_refl _)
  have tested := begun.give (condition_gives gives) testRead
  have chosen := (tested.give (gives _) consequenceRead).acceptWord otherWord
  rcases read with ⟨-, alternative, _, alternativeRead, rfl, rfl⟩ | ⟨-, _, _, ⟨rfl, rfl⟩, rfl, rfl⟩
  · exact (chosen.give (gives _) alternativeRead).node rfl
  · exact chosen.absent.node rfl

omit gives in
theorem atNextCase_keeps :
    Keeps (do pure ((← isWord "case") || (← isWord "default") || (← isMark "\x7d"))) := by
  intro before result after read
  simp only [reads_bind, reads_isWord, reads_isMark, reads_pure] at read
  rcases read with ⟨_, _, ⟨-, rfl⟩, _, _, ⟨-, rfl⟩, _, _, ⟨-, rfl⟩, -, rfl⟩
  rfl

/-- The statements of a case stand behind what it compares with. -/
theorem switchCase_gives : (switchCase recur).Gives := by
  intro before node after read sound
  rw [switchCase, reads_position_bind] at read
  simp only [reads_bind, reads_ite, reads_pure, reads_node] at read
  have statementsTake := manyUntil_gives atNextCase_keeps (gives (.statement true))
  rcases read with ⟨_, _, word, ⟨accepted, _, _, ⟨rfl, rfl⟩, _, _, colon, statements, _,
    statementsRead, rfl, rfl⟩ | ⟨refused, _, _, caseWord, test, _, testRead, _, _, colon,
    statements, _, statementsRead, rfl, rfl⟩⟩
  · have begun := (Passage.of_acceptedWord word accepted sound (Nat.le_refl _)).absent.mark colon
    rcases statementsTake _ _ _ statementsRead begun.leads.sound with ⟨leads, row, -⟩
    exact (begun.append leads row).node rfl
  · cases acceptWord_refused word refused
    have begun := Passage.of_word caseWord sound (Nat.le_refl _)
    have tested := (begun.give (gives _) testRead).mark colon
    rcases statementsTake _ _ _ statementsRead tested.leads.sound with ⟨leads, row, -⟩
    exact (tested.append leads row).node rfl

theorem switchChoice_gives : (switchChoice recur).Gives := by
  intro before node after read sound
  rw [switchChoice, reads_position_bind] at read
  simp only [reads_bind, reads_require, reads_node] at read
  rcases read with ⟨_, _, word, value, _, valueRead, _, _, opens, branches, _, branchesRead, _, _,
    closes, _, _, ⟨-, rfl⟩, rfl, rfl⟩
  have begun := Passage.of_word word sound (Nat.le_refl _)
  have opened := (begun.give (condition_gives gives) valueRead).mark opens
  rcases manyUntil_gives (isMark_keeps "\x7d") (switchCase_gives gives) _ _ _ branchesRead
    opened.leads.sound with ⟨leads, row, -⟩
  exact ((opened.append leads row).mark closes).node rfl

theorem catchClause_gives : (catchClause recur).Gives := by
  intro before node after read sound
  rw [catchClause, reads_position_bind] at read
  simp only [reads_bind, reads_ite, reads_pure, reads_node] at read
  rcases read with ⟨_, _, word, _, _, opens, read⟩
  have begun := (Passage.of_word word sound (Nat.le_refl _)).acceptMark opens
  rcases read with ⟨-, target, _, targetRead, _, _, closes, _, _, ⟨rfl, rfl⟩, body, _, bodyRead,
    rfl, rfl⟩ | ⟨-, _, _, ⟨rfl, rfl⟩, body, _, bodyRead, rfl, rfl⟩
  · have caught := (begun.give (gives _) targetRead).mark closes
    exact (caught.give (blockOf_gives gives) bodyRead).node rfl
  · exact (begun.absent.give (blockOf_gives gives) bodyRead).node rfl

/-- A guarded block has one clause after it, or both. -/
theorem guarded_gives : (guarded recur).Gives := by
  intro before node after read sound
  rw [guarded, reads_position_bind] at read
  simp only [reads_bind, reads_ite, reads_isWord, reads_pure, reads_require, reads_node] at read
  rcases read with ⟨_, _, word, body, _, bodyRead, _, _, ⟨-, rfl⟩, read⟩
  have begun := Passage.of_word word sound (Nat.le_refl _)
  have blocked := begun.give (blockOf_gives gives) bodyRead
  rcases read with ⟨-, handler, _, handlerRead, _, _, otherWord, read⟩ |
    ⟨-, _, _, ⟨rfl, rfl⟩, _, _, otherWord, read⟩
  · have handled := (blocked.give (catchClause_gives gives) handlerRead).acceptWord otherWord
    rcases read with ⟨-, final, _, finalRead, _, _, ⟨-, rfl⟩, rfl, rfl⟩ |
      ⟨-, _, _, ⟨rfl, rfl⟩, _, _, ⟨-, rfl⟩, rfl, rfl⟩
    · exact (handled.give (blockOf_gives gives) finalRead).node rfl
    · exact handled.absent.node rfl
  · have unhandled := blocked.absent.acceptWord otherWord
    rcases read with ⟨-, final, _, finalRead, _, _, ⟨-, rfl⟩, rfl, rfl⟩ |
      ⟨-, _, _, ⟨rfl, rfl⟩, _, _, ⟨-, rfl⟩, rfl, rfl⟩
    · exact (unhandled.give (blockOf_gives gives) finalRead).node rfl
    · exact unhandled.absent.node rfl

/-- A return may have no value. -/
theorem returnJump_gives : (returnJump recur).Gives := by
  intro before node after read sound
  rw [returnJump, reads_position_bind] at read
  simp only [reads_bind, reads_ite, reads_pure, reads_node] at read
  rcases read with ⟨_, _, word, _, _, looked, read⟩
  have begun := Passage.of_word word sound (Nat.le_refl _)
  cases atStatementEnd_keeps _ _ _ looked
  rcases read with ⟨-, _, _, ⟨rfl, rfl⟩, _, _, ending, rfl, rfl⟩ |
    ⟨-, value, _, valueRead, _, _, ending, rfl, rfl⟩
  · exact (begun.absent.endStatement ending).node rfl
  · exact ((begun.give (gives _) valueRead).endStatement ending).node rfl

theorem throwJump_gives : (throwJump recur).Gives := by
  intro before node after read sound
  rw [throwJump, reads_position_bind] at read
  simp only [reads_bind, reads_token, reads_require, reads_node] at read
  rcases read with ⟨_, _, word, _, _, ⟨-, rfl⟩, _, _, ⟨-, rfl⟩, value, _, valueRead, _, _, ending,
    rfl, rfl⟩
  have begun := Passage.of_word word sound (Nat.le_refl _)
  exact ((begun.give (gives _) valueRead).endStatement ending).node rfl

omit gives in
/-- A jump has no parts: its label belongs to its kind. -/
theorem labelJump_gives (word : String) {kind : Option String → Kind}
    (ordinary : ∀ label, (kind label).isOrdinary = true) : (labelJump word kind).Gives := by
  intro before node after read sound
  rw [labelJump, reads_position_bind] at read
  simp only [reads_bind, reads_ite, reads_pure, reads_map, reads_node] at read
  rcases read with ⟨_, _, jumps, _, _, looked, read⟩
  have begun := Passage.of_word jumps sound (Nat.le_refl _)
  cases atStatementEnd_keeps _ _ _ looked
  rcases read with ⟨-, _, _, ⟨rfl, rfl⟩, _, _, ending, rfl, rfl⟩ |
    ⟨-, _, _, ⟨label, labelRead, rfl⟩, _, _, ending, rfl, rfl⟩
  · exact (begun.endStatement ending).node (ordinary _)
  · have labeled := begun.follow (variableName_takes _ _ _ labelRead begun.leads.sound).1
    exact (labeled.endStatement ending).node (ordinary _)

/-! ## Statements -/

theorem functionStatement_gives : (functionStatement recur).Gives := by
  intro before node after read sound
  rw [functionStatement, reads_position_bind] at read
  simp only [reads_bind, reads_node] at read
  rcases read with ⟨_, _, word, function, _, functionRead, rfl, rfl⟩
  have begins := acceptWord_leads word sound
  rcases functionFrom_gives gives functionRead begins.sound begins.start with ⟨leads, fits⟩
  exact (Passage.of_fits (begins.trans leads) fits).node rfl

theorem classStatement_gives : (classStatement recur).Gives := by
  intro before node after read sound
  rw [classStatement, reads_position_bind] at read
  simp only [reads_bind, reads_node] at read
  rcases read with ⟨declared, _, declaredRead, rfl, rfl⟩
  exact (Passage.of_give (classFrom_gives gives true) declaredRead sound (Nat.le_refl _)).node rfl

/-- A label stands for itself only before a statement, and else it is a variable. -/
theorem expressionOrLabeled_gives : (expressionOrLabeled recur).Gives := by
  intro before node after read sound
  rw [expressionOrLabeled, reads_position_bind, reads_bind] at read
  rcases read with ⟨value, _, valueRead, read⟩
  have begun := Passage.of_give (gives _) valueRead sound (Nat.le_refl _)
  split at read
  · simp only [reads_bind, reads_ite, reads_isWord, reads_require, reads_node] at read
    rcases read with ⟨_, _, colon, ⟨-, _, _, ⟨-, rfl⟩, _, _, ⟨-, rfl⟩, body, _, bodyRead, rfl,
      rfl⟩ | ⟨-, _, _, ending, rfl, rfl⟩⟩
    · have labeled : Passage before.token.start before [] _ :=
        .of_leads begun.leads begun.started
      exact ((labeled.acceptMark colon).give (gives _) bodyRead).node rfl
    · exact ((begun.acceptMark colon).endStatement ending).node rfl
  · simp only [reads_bind, reads_node] at read
    rcases read with ⟨_, _, ending, rfl, rfl⟩
    exact (begun.endStatement ending).node rfl

/-- A word at the start of a statement tells of what kind it is, or nothing. -/
theorem wordStatement_gives (declarations : Bool) (word : String) :
    (wordStatement recur declarations word).Gives := by
  intro before node after read sound
  unfold wordStatement at read
  split at read
  · exact variablesStatement_gives gives _ _ _ read sound
  · rcases reads_require_bind.mp read with ⟨-, read⟩
    exact variablesStatement_gives gives _ _ _ read sound
  · rcases reads_require_bind.mp read with ⟨-, read⟩
    exact variablesStatement_gives gives _ _ _ read sound
  · rcases reads_require_bind.mp read with ⟨-, read⟩
    exact functionStatement_gives gives _ _ _ read sound
  · rcases reads_require_bind.mp read with ⟨-, read⟩
    exact classStatement_gives gives _ _ _ read sound
  · exact ifChoice_gives gives _ _ _ read sound
  · exact forLoop_gives gives _ _ _ read sound
  · exact whileLoop_gives gives _ _ _ read sound
  · exact doLoop_gives gives _ _ _ read sound
  · exact switchChoice_gives gives _ _ _ read sound
  · exact guarded_gives gives _ _ _ read sound
  · exact returnJump_gives gives _ _ _ read sound
  · exact throwJump_gives gives _ _ _ read sound
  · exact labelJump_gives "break" (fun _ => rfl) _ _ _ read sound
  · exact labelJump_gives "continue" (fun _ => rfl) _ _ _ read sound
  · rw [reads_position_bind] at read
    simp only [reads_bind, reads_node] at read
    rcases read with ⟨_, _, advanced, _, _, ending, rfl, rfl⟩
    exact ((Passage.of_advance advanced sound (Nat.le_refl _)).endStatement ending).node rfl
  · rw [reads_bind] at read
    rcases read with ⟨_, _, looked, read⟩
    cases atImportExpression_keeps _ _ _ looked
    rcases reads_require_bind.mp read with ⟨-, read⟩
    exact expressionOrLabeled_gives gives _ _ _ read sound
  · rw [reads_bind] at read
    rcases read with ⟨_, _, looked, read⟩
    cases atAsyncFunction_keeps _ _ _ looked
    rcases reads_ite.mp read with ⟨-, read⟩ | ⟨-, read⟩
    · exact functionStatement_gives gives _ _ _ read sound
    · exact expressionOrLabeled_gives gives _ _ _ read sound
  · exact expressionOrLabeled_gives gives _ _ _ read sound

theorem statementGoal_gives (declarations : Bool) : (statementGoal recur declarations).Gives := by
  intro before node after read sound
  rw [statementGoal, reads_token_bind] at read
  split at read
  · exact blockOf_gives gives _ _ _ read sound
  · exact tokenNode_gives rfl (reads_position_bind.mp read) sound
  · exact wordStatement_gives gives declarations _ _ _ _ read sound
  · exact expressionOrLabeled_gives gives _ _ _ read sound

theorem exportedDefault_gives : (exportedDefault recur).Gives := by
  intro before node after read sound
  rw [exportedDefault, reads_position_bind, reads_bind] at read
  rcases read with ⟨_, _, looked, read⟩
  cases atAsyncFunction_keeps _ _ _ looked
  simp only [reads_ite, reads_bind, reads_isWord, reads_pure] at read
  rcases read with ⟨-, _, _, advanced, functionRead⟩ | ⟨-, _, _, ⟨-, rfl⟩, ⟨-, functionRead⟩ |
    ⟨-, _, _, ⟨-, rfl⟩, ⟨-, classRead⟩ | ⟨-, value, _, valueRead, _, _, ending, rfl, rfl⟩⟩⟩
  · have begun := Passage.of_advance advanced sound (Nat.le_refl _)
    have given := functionFrom_gives gives functionRead begun.leads.sound begun.starts
    exact given.imp_left begun.leads.trans
  · exact functionFrom_gives gives functionRead sound (Nat.le_refl _)
  · exact classFrom_gives gives false _ _ _ classRead sound
  · have given := gives _ _ _ _ valueRead sound
    exact follow_given given (endStatement_leads ending given.1.sound)

/-- What is exported comes after the words for it. -/
theorem exportItem_gives : (exportItem recur).Gives := by
  intro before node after read sound
  rw [exportItem, reads_position_bind] at read
  simp only [reads_bind, reads_ite, reads_isMark, reads_require, reads_node] at read
  rcases read with ⟨_, _, word, _, _, star, read⟩
  have begun := (Passage.of_word word sound (Nat.le_refl _)).acceptMark star
  rcases read with ⟨-, starRead⟩ | ⟨-, _, _, ⟨-, rfl⟩, ⟨-, listRead⟩ | ⟨-, _, _, otherWord, read⟩⟩
  · exact exportStar_gives begun starRead
  · exact exportList_gives begun listRead
  have marked := begun.acceptWord otherWord
  rcases read with ⟨-, value, _, valueRead, rfl, rfl⟩ |
    ⟨-, _, _, looked, _, _, ⟨-, rfl⟩, declaration, _, declarationRead, rfl, rfl⟩
  · exact (marked.give (exportedDefault_gives gives) valueRead).node rfl
  · cases atDeclaration_keeps _ _ _ looked
    exact (marked.give (gives _) declarationRead).node rfl

/-- A script has imports and exports among its statements. -/
theorem moduleItem_gives : (moduleItem recur).Gives := by
  intro before node after read sound
  rw [moduleItem, reads_isWord_bind, reads_ite] at read
  rcases read with ⟨-, read⟩ | ⟨-, read⟩
  · exact exportItem_gives gives _ _ _ read sound
  rw [reads_isWord_bind, reads_bind] at read
  rcases read with ⟨_, _, looked, read⟩
  cases atImportExpression_keeps _ _ _ looked
  rcases reads_ite.mp read with ⟨-, read⟩ | ⟨-, read⟩
  · exact importItem_gives _ _ _ read sound
  · exact gives _ _ _ _ read sound

end

/-- Every goal of the grammar gives a placed node that stands where it was read. -/
theorem readGoal_gives (fuel : Nat) (goal : Goal) : (readGoal fuel goal).Gives := by
  induction fuel generalizing goal with
  | zero => exact nofun
  | succ fuel induction =>
      cases goal with
      | statement declarations => exact statementGoal_gives induction declarations
      | expression allowsIn => exact expressionGoal_gives induction allowsIn
      | assignment allowsIn => exact assignmentGoal_gives induction allowsIn
      | unary => exact gives_of_givesFrom (operand_gives induction none)
      | constructed => exact constructedGoal_gives induction
      | leftHandSide => exact gives_of_givesFrom (chain_gives induction none)
      | binding => exact bindingGoal_gives induction

/-- Comments at the end of a script do not make it longer. -/
theorem fileLastComments_keeps {hasTokens : Bool} {result : Unit}
    (read : (fileLastComments start hasTokens).Reads before result after) :
    after.lastFinish = before.lastFinish := by
  cases read
  rfl

theorem atFinish_keeps : (do pure ((← token).kind = .finish) : Reader Bool).Keeps := by
  intro before result after read
  simp only [reads_bind, reads_token, reads_pure] at read
  rcases read with ⟨_, _, ⟨-, rfl⟩, -, rfl⟩
  rfl

/-- The items of a script stand one after the other behind the place where it may
start. -/
theorem program_placed {hashbang : Option String} {tree : Node}
    (read : (program start hashbang).Reads before tree after) (sound : before.Sound)
    (starts : start ≤ before.token.start) : tree.IsPlaced := by
  rw [program, reads_token_bind] at read
  simp only [reads_bind, reads_node] at read
  rcases read with ⟨items, _, itemsRead, _, _, filed, rfl, rfl⟩
  rcases manyUntil_gives atFinish_keeps (moduleItem_gives (readGoal_gives _)) _ _ _ itemsRead sound
    with ⟨-, ⟨placed, rise⟩, -⟩
  rw [Node.isPlaced_mk_iff, Kind.inText_of_isOrdinary rfl, fileLastComments_keeps filed]
  refine ⟨rise.widen starts (Nat.le_refl _), ?_, ?_, trivial, placed⟩
  · rintro ⟨⟩
  · rintro ⟨⟩

end Reader

/-- The tree of every script that is read is placed. -/
theorem Program.read?_isPlaced {text : String} {program : Program}
    (read : Program.read? text = some program) : program.tree.IsPlaced := by
  have parsed := (Option.filter_eq_some_iff.mp read).1
  rw [ofText?] at parsed
  rcases Option.bind_eq_some_iff.mp parsed with ⟨first, found, later⟩
  rcases Option.bind_eq_some_iff.mp later with ⟨⟨tree, state⟩, treeRead, ⟨⟩⟩
  rcases readToken?_sound found with ⟨firstSound, behind⟩
  apply Reader.program_placed treeRead ⟨firstSound, behind⟩
  split
  · exact Nat.zero_le _
  · exact Nat.le_refl _

/-- The tree of every script that is read is written. -/
theorem Program.read?_isWritten {text : String} {program : Program}
    (read : Program.read? text = some program) : program.tree.IsWritten :=
  (read?_isPlaced read).isWritten

end ScriptBundle.Script
