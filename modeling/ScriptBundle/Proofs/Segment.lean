import ScriptBundle.Path

/-!
# Segments and their texts

A text is cut at its slashes into segments, and segments are written one after
the other with slashes between them.  Each of the two undoes the other, except
that no segment at all is written like one empty segment.
-/

namespace ScriptBundle.Path

theorem segmentsOf_ne_nil (text : List Char) : segmentsOf text ≠ [] := by
  cases text with
  | nil => simp [segmentsOf]
  | cons character rest =>
      rw [segmentsOf]
      split
      · simp
      · split <;> simp

/-- A text whose first character is no slash starts with a longer segment than
the text after that character. -/
theorem segmentsOf_cons {character : Char} (noSlash : character ≠ '/') (rest : List Char) :
    ∃ first others, segmentsOf rest = first :: others ∧
      segmentsOf (character :: rest) = (character :: first) :: others := by
  cases cut : segmentsOf rest with
  | nil => exact absurd cut (segmentsOf_ne_nil rest)
  | cons first others =>
      refine ⟨first, others, rfl, ?_⟩
      rw [segmentsOf, if_neg noSlash, cut]

@[simp]
theorem segmentsOf_slash_cons (rest : List Char) :
    segmentsOf ('/' :: rest) = [] :: segmentsOf rest := by
  rw [segmentsOf, if_pos rfl]

/-- No slash is left in a segment. -/
theorem slash_not_mem_segment {text segment : List Char}
    (member : segment ∈ segmentsOf text) : '/' ∉ segment := by
  induction text generalizing segment with
  | nil =>
      simp only [segmentsOf, List.mem_singleton] at member
      simp [member]
  | cons character rest induction =>
      by_cases slash : character = '/'
      · subst slash
        rw [segmentsOf_slash_cons] at member
        rcases List.mem_cons.mp member with rfl | later
        · simp
        · exact induction later
      · rcases segmentsOf_cons slash rest with ⟨first, others, cut, cutAll⟩
        rw [cutAll] at member
        rcases List.mem_cons.mp member with rfl | later
        · have firstPlain : '/' ∉ first := induction (by simp [cut])
          simpa [firstPlain] using Ne.symm slash
        · exact induction (by simp [cut, later])

theorem mem_text_of_mem_segment {text segment : List Char} {character : Char}
    (member : segment ∈ segmentsOf text) (inside : character ∈ segment) :
    character ∈ text := by
  induction text generalizing segment with
  | nil =>
      simp only [segmentsOf, List.mem_singleton] at member
      simp [member] at inside
  | cons head rest induction =>
      by_cases slash : head = '/'
      · subst slash
        rw [segmentsOf_slash_cons] at member
        rcases List.mem_cons.mp member with rfl | later
        · simp at inside
        · exact List.mem_cons_of_mem _ (induction later inside)
      · rcases segmentsOf_cons slash rest with ⟨first, others, cut, cutAll⟩
        rw [cutAll] at member
        rcases List.mem_cons.mp member with rfl | later
        · rcases List.mem_cons.mp inside with rfl | deeper
          · exact List.mem_cons_self
          · exact List.mem_cons_of_mem _ (induction (by simp [cut]) deeper)
        · exact List.mem_cons_of_mem _ (induction (by simp [cut, later]) inside)

theorem joinSegments_cons {segment : List Char} {others : List (List Char)}
    (more : others ≠ []) :
    joinSegments (segment :: others) = segment ++ '/' :: joinSegments others := by
  cases others with
  | nil => exact absurd rfl more
  | cons next rest => rfl

/-- The segments of a text, written one after the other, are the text. -/
theorem joinSegments_segmentsOf (text : List Char) :
    joinSegments (segmentsOf text) = text := by
  induction text with
  | nil => rfl
  | cons character rest induction =>
      by_cases slash : character = '/'
      · subst slash
        rw [segmentsOf_slash_cons, joinSegments_cons (segmentsOf_ne_nil rest), induction]
        rfl
      · rcases segmentsOf_cons slash rest with ⟨first, others, cut, cutAll⟩
        rw [cut] at induction
        rw [cutAll, ← induction]
        cases others <;> rfl

/-- A text is cut at its first slash. -/
theorem segmentsOf_append_slash {segment : List Char} (plain : '/' ∉ segment)
    (rest : List Char) :
    segmentsOf (segment ++ '/' :: rest) = segment :: segmentsOf rest := by
  induction segment with
  | nil => simp
  | cons character segment induction =>
      have noSlash : character ≠ '/' := by
        rintro rfl
        simp at plain
      have restPlain : '/' ∉ segment :=
        fun member => plain (List.mem_cons_of_mem _ member)
      rw [List.cons_append, segmentsOf, if_neg noSlash, induction restPlain]

theorem segmentsOf_plain {segment : List Char} (plain : '/' ∉ segment) :
    segmentsOf segment = [segment] := by
  induction segment with
  | nil => rfl
  | cons character segment induction =>
      have noSlash : character ≠ '/' := by
        rintro rfl
        simp at plain
      have restPlain : '/' ∉ segment :=
        fun member => plain (List.mem_cons_of_mem _ member)
      rw [segmentsOf, if_neg noSlash, induction restPlain]

/-- Segments without slashes are read back from their text. -/
theorem segmentsOf_joinSegments {segments : List (List Char)} (nonempty : segments ≠ [])
    (plain : ∀ segment ∈ segments, '/' ∉ segment) :
    segmentsOf (joinSegments segments) = segments := by
  induction segments with
  | nil => exact absurd rfl nonempty
  | cons segment others induction =>
      have firstPlain : '/' ∉ segment := plain segment List.mem_cons_self
      by_cases last : others = []
      · subst last
        exact segmentsOf_plain firstPlain
      · have othersPlain : ∀ other ∈ others, '/' ∉ other :=
          fun other member => plain other (List.mem_cons_of_mem _ member)
        rw [joinSegments_cons last, segmentsOf_append_slash firstPlain,
          induction last othersPlain]

/-- Joined segments hold no character but theirs and slashes. -/
theorem mem_joinSegments {segments : List (List Char)} {character : Char}
    (member : character ∈ joinSegments segments) :
    character = '/' ∨ ∃ segment ∈ segments, character ∈ segment := by
  induction segments with
  | nil => simp [joinSegments] at member
  | cons segment others induction =>
      by_cases last : others = []
      · subst last
        exact .inr ⟨segment, List.mem_cons_self, member⟩
      · rw [joinSegments_cons last] at member
        rcases List.mem_append.mp member with here | later
        · exact .inr ⟨segment, List.mem_cons_self, here⟩
        · rcases List.mem_cons.mp later with slash | deeper
          · exact .inl slash
          · rcases induction deeper with slash | ⟨other, inside, found⟩
            · exact .inl slash
            · exact .inr ⟨other, List.mem_cons_of_mem _ inside, found⟩

/-- How many bytes a text takes. -/
def byteCount (text : List Char) : Nat :=
  (String.ofList text).utf8ByteSize

theorem byteCount_append (left right : List Char) :
    byteCount (left ++ right) = byteCount left + byteCount right := by
  rw [byteCount, String.ofList_append, String.utf8ByteSize_append]
  rfl

theorem byteCount_slash_cons (text : List Char) :
    byteCount ('/' :: text) = byteCount text + 1 := by
  have slash : byteCount ['/'] = 1 := by decide
  rw [← List.singleton_append, byteCount_append, slash, Nat.add_comm]

/-- How many bytes segments take when a slash is written after each. -/
def spaceOf : List (List Char) → Nat
  | [] => 0
  | segment :: others => byteCount segment + 1 + spaceOf others

theorem spaceOf_le_of_sublist {part whole : List (List Char)} (sublist : part.Sublist whole) :
    spaceOf part ≤ spaceOf whole := by
  induction sublist with
  | slnil => exact Nat.le_refl _
  | cons segment _ induction =>
      exact Nat.le_trans induction (Nat.le_add_left _ _)
  | cons_cons segment _ induction =>
      exact Nat.add_le_add_left induction _

/-- Segments take their room, and one slash between each two of them. -/
theorem byteCount_joinSegments {segments : List (List Char)} (nonempty : segments ≠ []) :
    byteCount (joinSegments segments) + 1 = spaceOf segments := by
  induction segments with
  | nil => exact absurd rfl nonempty
  | cons segment others induction =>
      by_cases last : others = []
      · subst last
        rfl
      · rw [joinSegments_cons last, byteCount_append, byteCount_slash_cons,
          induction last, spaceOf]
        omega

/-- A text is not longer than one of which it keeps some segments. -/
theorem byteCount_joinSegments_le {part : List (List Char)} {text : List Char}
    (nonempty : part ≠ []) (sublist : part.Sublist (segmentsOf text)) :
    byteCount (joinSegments part) ≤ byteCount text := by
  have partSpace := byteCount_joinSegments nonempty
  have textSpace := byteCount_joinSegments (segmentsOf_ne_nil text)
  rw [joinSegments_segmentsOf] at textSpace
  have less := spaceOf_le_of_sublist sublist
  omega

end ScriptBundle.Path
