import Mathlib.Data.List.Forall2
import Mathlib.Data.List.Nodup
import Mathlib.Data.List.TakeWhile
import ScriptBundle.Command

/-!
# Entries that are declared one by one

An entry is declared by a text: its name and its path with a sign between them,
or its path alone.  Texts are read from the first on, and the reading goes on
as long as every entry has a name and a path and no name is there twice; the
first text that breaks this is what is complained about.

A single path is taken as it is, and nothing is asked of it.  So the only texts
that are not read by these rules are a single empty one.
-/

namespace ScriptBundle

namespace NamedPaths

variable {paths : NamedPaths} {name : String}

theorem hasName_iff : paths.hasName name = true ↔ name ∈ paths.pairs.map Prod.fst := by
  rw [hasName, List.contains_iff_mem]

theorem insert_pairs (fresh : name ∉ paths.pairs.map Prod.fst) (path : String) :
    (paths.insert name path).pairs = paths.pairs ++ [(name, path)] := by
  rw [insert, dif_neg (mt hasName_iff.mp fresh)]

end NamedPaths

namespace Entries

variable {text name path : String} {texts before : List String} {pair : String × String}
  {pairs earlier : List (String × String)} {failure : Failure} {entries : NamedPaths}

/-- The name and the path that a text declares: what is before and behind its
first sign, or the usual name and the text itself. -/
inductive Declares (text : String) : String × String → Prop where
  | named {name path : String} (first : '=' ∉ name.toList) (written : text = name ++ "=" ++ path) :
      Declares text (name, path)
  | bare (plain : '=' ∉ text.toList) : Declares text (defaultName, text)

theorem forall_ne_sign {characters : List Char} (absent : '=' ∉ characters) :
    ∀ character ∈ characters, decide (character ≠ '=') = true := by
  intro character inside
  exact decide_eq_true (ne_of_mem_of_not_mem inside absent)

theorem splitEntry_of_plain (plain : '=' ∉ text.toList) :
    splitEntry text = (defaultName, text) := by
  have nothing : text.toList.dropWhile (· ≠ '=') = [] :=
    List.dropWhile_eq_nil_iff.mpr (forall_ne_sign plain)
  rw [splitEntry, nothing]

/-- A text is cut at its first sign. -/
theorem splitEntry_append (first : '=' ∉ name.toList) (path : String) :
    splitEntry (name ++ "=" ++ path) = (name, path) := by
  have characters : (name ++ "=" ++ path).toList = name.toList ++ '=' :: path.toList := by
    rw [String.toList_append, String.toList_append, List.append_assoc]
    rfl
  have behind : (name ++ "=" ++ path).toList.dropWhile (· ≠ '=') = '=' :: path.toList := by
    rw [characters, List.dropWhile_append_of_pos (forall_ne_sign first)]
    rfl
  have ahead : (name ++ "=" ++ path).toList.takeWhile (· ≠ '=') = name.toList := by
    rw [characters, List.takeWhile_append_of_pos (forall_ne_sign first)]
    exact List.append_nil _
  rw [splitEntry, behind]
  dsimp only
  rw [ahead, String.ofList_toList, String.ofList_toList]

/-- A text declares one entry, which is how it is split. -/
theorem declares_iff : Declares text pair ↔ splitEntry text = pair := by
  constructor
  · rintro (⟨first, rfl⟩ | plain)
    · exact splitEntry_append first _
    · exact splitEntry_of_plain plain
  · rintro rfl
    by_cases signed : '=' ∈ text.toList
    · rcases List.eq_append_cons_of_mem signed with ⟨before, behind, whole, first⟩
      have written : text = String.ofList before ++ "=" ++ String.ofList behind := by
        apply String.toList_inj.mp
        simp [whole]
      have firstName : '=' ∉ (String.ofList before).toList := by
        rw [String.toList_ofList]
        exact first
      rw [written, splitEntry_append firstName]
      exact .named firstName rfl
    · rw [splitEntry_of_plain signed]
      exact .bare signed

theorem forall₂_declares_iff :
    List.Forall₂ Declares texts pairs ↔ texts.map splitEntry = pairs := by
  rw [← List.forall₂_eq_eq_eq, List.forall₂_map_left_iff]
  exact iff_of_eq (congrArg (List.Forall₂ · texts pairs)
    (funext₂ fun _ _ => propext declares_iff))

/-- Entries that have names and paths, and no name twice. -/
structure WellFormed (pairs : List (String × String)) : Prop where
  named : ∀ pair ∈ pairs, pair.1 ≠ ""
  located : ∀ pair ∈ pairs, pair.2 ≠ ""
  distinct : (pairs.map Prod.fst).Nodup

/-- What is wrong with a text after others that declared some entries, and how
it is told. -/
inductive Fault (earlier : List (String × String)) (text : String) : Failure → Prop where
  | incomplete {name path : String} (declares : Declares text (name, path))
      (lacks : name = "" ∨ path = "") :
      Fault earlier text (.ofMessage ("Invalid entry '" ++ text ++ "', expected name=path"))
  | repeated {name path : String} (declares : Declares text (name, path))
      (named : name ≠ "") (located : path ≠ "") (taken : name ∈ earlier.map Prod.fst) :
      Fault earlier text (.ofMessage ("Entry '" ++ name ++ "' given more than once"))

/-- A text declares an entry that can stand behind others. -/
structure Fits (earlier : List (String × String)) (text name path : String) : Prop where
  declares : Declares text (name, path)
  named : name ≠ ""
  located : path ≠ ""
  fresh : name ∉ earlier.map Prod.fst

/-- A text is a declaration that fits behind others, or it has a fault. -/
theorem exists_fault_or_fits (earlier : List (String × String)) (text : String) :
    (∃ failure, Fault earlier text failure) ∨ ∃ name path, Fits earlier text name path := by
  have declares : Declares text ((splitEntry text).1, (splitEntry text).2) := declares_iff.mpr rfl
  by_cases lacks : (splitEntry text).1 = "" ∨ (splitEntry text).2 = ""
  · exact .inl ⟨_, .incomplete declares lacks⟩
  · rcases not_or.mp lacks with ⟨named, located⟩
    by_cases taken : (splitEntry text).1 ∈ earlier.map Prod.fst
    · exact .inl ⟨_, .repeated declares named located taken⟩
    · exact .inr ⟨_, _, declares, named, located, taken⟩

theorem wellFormed_nil : WellFormed [] where
  named := fun _ listed => absurd listed List.not_mem_nil
  located := fun _ listed => absurd listed List.not_mem_nil
  distinct := .nil

theorem WellFormed.snoc (wellFormed : WellFormed earlier) (named : name ≠ "") (located : path ≠ "")
    (fresh : name ∉ earlier.map Prod.fst) : WellFormed (earlier ++ [(name, path)]) where
  named := List.forall_mem_append.mpr ⟨wellFormed.named, List.forall_mem_singleton.mpr named⟩
  located := List.forall_mem_append.mpr ⟨wellFormed.located, List.forall_mem_singleton.mpr located⟩
  distinct := by
    rw [List.map_append]
    exact wellFormed.distinct.append (List.nodup_singleton _) (List.disjoint_singleton.mpr fresh)

/-- A fault is one in whatever is declared behind it. -/
theorem Fault.not_wellFormed (fault : Fault earlier text failure)
    (later : List (String × String)) : ¬ WellFormed (earlier ++ splitEntry text :: later) := by
  intro wellFormed
  have listed : splitEntry text ∈ earlier ++ splitEntry text :: later :=
    List.mem_append_right _ List.mem_cons_self
  have named := wellFormed.named _ listed
  have located := wellFormed.located _ listed
  have distinct := wellFormed.distinct
  cases fault with
  | incomplete declares lacks =>
      rw [declares_iff.mp declares] at named located
      exact lacks.elim named located
  | repeated declares _ _ taken =>
      rw [declares_iff.mp declares, List.map_append, List.nodup_append] at distinct
      exact distinct.2.2 _ taken _ List.mem_cons_self rfl

theorem readNamed_of_fault (fault : Fault entries.pairs text failure) (rest : List String) :
    readNamed entries (text :: rest) = .error failure := by
  cases fault with
  | incomplete declares lacks =>
      rw [readNamed, declares_iff.mp declares]
      dsimp only
      rw [if_pos (by simpa using lacks)]
  | repeated declares named located taken =>
      rw [readNamed, declares_iff.mp declares]
      dsimp only
      rw [if_neg (by simpa using ⟨named, located⟩), if_pos (NamedPaths.hasName_iff.mpr taken)]

theorem readNamed_of_fits (fits : Fits entries.pairs text name path) (rest : List String) :
    readNamed entries (text :: rest) = readNamed (entries.insert name path) rest := by
  rw [readNamed, declares_iff.mp fits.declares]
  dsimp only
  rw [if_neg (by simpa using ⟨fits.named, fits.located⟩),
    if_neg (mt NamedPaths.hasName_iff.mp fits.fresh)]

/-- Texts are read to the end, and then the entries are those that they declare;
or the reading stops at the first text that is at fault. -/
theorem readNamed_cases (wellFormed : WellFormed entries.pairs) (texts : List String) :
    (∃ read, readNamed entries texts = .ok read ∧
        read.pairs = entries.pairs ++ texts.map splitEntry ∧ WellFormed read.pairs) ∨
      ∃ before text behind failure, readNamed entries texts = .error failure ∧
        texts = before ++ text :: behind ∧
        WellFormed (entries.pairs ++ before.map splitEntry) ∧
        Fault (entries.pairs ++ before.map splitEntry) text failure := by
  induction texts generalizing entries with
  | nil => exact .inl ⟨entries, rfl, (List.append_nil _).symm, wellFormed⟩
  | cons text rest induction =>
      rcases exists_fault_or_fits entries.pairs text with
          ⟨failure, fault⟩ | ⟨name, path, fits⟩
      · refine .inr ⟨[], text, rest, failure, readNamed_of_fault fault rest, rfl, ?_, ?_⟩
        · rw [List.map_nil, List.append_nil]
          exact wellFormed
        · rw [List.map_nil, List.append_nil]
          exact fault
      · have inserted := NamedPaths.insert_pairs fits.fresh path
        have whole (others : List String) :
            (entries.insert name path).pairs ++ others.map splitEntry =
              entries.pairs ++ (text :: others).map splitEntry := by
          rw [inserted, List.map_cons, declares_iff.mp fits.declares, List.append_assoc,
            List.singleton_append]
        have next : WellFormed (entries.insert name path).pairs := by
          rw [inserted]
          exact wellFormed.snoc fits.named fits.located fits.fresh
        rw [readNamed_of_fits fits]
        rcases induction next with
            ⟨read, ran, listed, good⟩ | ⟨before, bad, behind, failure, ran, rfl, good, fault⟩
        · exact .inl ⟨read, ran, listed.trans (whole rest), good⟩
        · rw [whole] at good fault
          exact .inr ⟨text :: before, bad, behind, failure, ran, rfl, good, fault⟩

/-- What is expected of the answer to texts that declare some entries. -/
structure IsAnswer (texts : List String) (pairs : List (String × String))
    (answer : Except Failure Entries) : Prop where
  succeeds_iff : (∃ entries, answer = .ok entries) ↔ WellFormed pairs
  /-- The entries are those that are declared, in their order. -/
  lists : ∀ entries, answer = .ok entries → entries.toList = pairs
  /-- What is told is the fault of the first text that has one. -/
  first_fault : ∀ failure, answer = .error failure →
    ∃ before text behind earlier, texts = before ++ text :: behind ∧
      List.Forall₂ Declares before earlier ∧ WellFormed earlier ∧ Fault earlier text failure

theorem isAnswer_ok {entries : Entries} (wellFormed : WellFormed entries.toList)
    (texts : List String) : IsAnswer texts entries.toList (.ok entries) where
  succeeds_iff := iff_of_true ⟨entries, rfl⟩ wellFormed
  lists := by
    intro other told
    rw [Except.ok.inj told]
  first_fault := by
    intro failure told
    cases told

theorem isAnswer_error (good : WellFormed (before.map splitEntry))
    (fault : Fault (before.map splitEntry) text failure) (behind : List String) :
    IsAnswer (before ++ text :: behind) ((before ++ text :: behind).map splitEntry)
      (.error failure) where
  succeeds_iff := by
    refine iff_of_false ?_ ?_
    · rintro ⟨entries, told⟩
      cases told
    · rw [List.map_append, List.map_cons]
      exact fault.not_wellFormed _
  lists := by
    intro entries told
    cases told
  first_fault := by
    intro other told
    rw [← Except.error.inj told]
    exact ⟨before, text, behind, _, rfl, forall₂_declares_iff.mpr rfl, good, fault⟩

/-- Named entries are read as the rules say. -/
theorem isAnswer_readNamed (texts : List String) :
    IsAnswer texts (texts.map splitEntry) (.named <$> readNamed .empty texts) := by
  have nothing : WellFormed NamedPaths.empty.pairs := wellFormed_nil
  rcases readNamed_cases nothing texts with
      ⟨read, ran, listed, good⟩ | ⟨before, text, behind, failure, ran, rfl, good, fault⟩
  · have all : (Entries.named read).toList = texts.map splitEntry := listed
    have goodAll : WellFormed (Entries.named read).toList := good
    rw [ran, ← all]
    exact isAnswer_ok goodAll texts
  · rw [ran]
    exact isAnswer_error good fault behind

theorem ofArguments_of_plain (plain : '=' ∉ text.toList) :
    ofArguments [text] = .ok (.single text) := by
  rw [ofArguments, if_neg (by simpa using plain)]

/-- All texts but a single path are read one by one. -/
theorem ofArguments_eq_readNamed (notBare : ∀ text, texts = [text] → '=' ∈ text.toList) :
    ofArguments texts = .named <$> readNamed .empty texts := by
  rcases texts with _ | ⟨text, _ | ⟨second, others⟩⟩
  · rfl
  · rw [ofArguments, if_pos (List.contains_iff_mem.mpr (notBare text rfl))]
  · rfl

/-- A single path has an answer that is expected exactly if it is not empty. -/
theorem isAnswer_single_iff (text : String) :
    IsAnswer [text] [(defaultName, text)] (.ok (.single text)) ↔ text ≠ "" := by
  constructor
  · intro answer
    exact (answer.succeeds_iff.mp ⟨_, rfl⟩).located _ List.mem_cons_self
  · intro located
    have usual : defaultName ≠ "" := by decide
    have good : WellFormed (Entries.single text).toList :=
      wellFormed_nil.snoc usual located List.not_mem_nil
    exact isAnswer_ok good [text]

/-- Texts declare one entry each, and are answered with these entries if they
have names and paths and no name is there twice, and otherwise with the fault of
the first text that has one, exactly if they are not a single empty text. -/
theorem ofArguments_isAnswer_iff (texts : List String) :
    ∃ pairs, (∀ others, List.Forall₂ Declares texts others ↔ others = pairs) ∧
      (IsAnswer texts pairs (ofArguments texts) ↔ texts ≠ [""]) := by
  refine ⟨texts.map splitEntry, fun others => forall₂_declares_iff.trans eq_comm, ?_⟩
  by_cases bare : ∃ text, texts = [text] ∧ '=' ∉ text.toList
  · rcases bare with ⟨text, rfl, plain⟩
    rw [ofArguments_of_plain plain, List.map_singleton, splitEntry_of_plain plain,
      isAnswer_single_iff]
    simp
  · have notBare : ∀ text, texts = [text] → '=' ∈ text.toList := by
      intro text single
      by_contra plain
      exact bare ⟨text, single, plain⟩
    rw [ofArguments_eq_readNamed notBare]
    refine iff_of_true (isAnswer_readNamed texts) ?_
    rintro rfl
    exact absurd (notBare "" rfl) (by decide)

/-- A single empty text is at fault, and yet it is taken for the path of an
entry. -/
theorem empty_path_accepted :
    Declares "" ("main", "") ∧ Fault [] "" (.ofMessage "Invalid entry '', expected name=path") ∧
      (∃ entries, ofArguments [""] = .ok entries ∧ entries.toList = [("main", "")]) ∧
      ¬ IsAnswer [""] [("main", "")] (ofArguments [""]) := by
  have declares : Declares "" ("main", "") := .bare (by decide)
  have single : ofArguments [""] = .ok (.single "") := ofArguments_of_plain (by decide)
  refine ⟨declares, .incomplete declares (.inr rfl), ⟨_, single, rfl⟩, ?_⟩
  rw [single]
  intro answer
  exact (isAnswer_single_iff "").mp answer rfl

end Entries

end ScriptBundle
