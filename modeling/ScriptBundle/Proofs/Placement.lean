import Mathlib.Data.List.Forall2
import ScriptBundle.Proofs.Spelling
import ScriptBundle.Proofs.Substitution
import ScriptBundle.Script.Rules

/-!
# Where nodes stand

In a tree that was read from a text, names and strings have no parts, and a
string has the value that its spelling has.  Such a tree is written.

The parts of a node stand one after the other in the text, within the node, and
missing parts stand nowhere.  Parts are kept in the order in which they are
visited, so for a `do` loop and for a class this is said of another order of the
parts.

A tree is placed if this holds of all its nodes, and if it is written.  Whatever
the grammar makes of placed nodes that were read before is placed again: targets,
sequences, and operands that are grouped.
-/

namespace ScriptBundle.Script

/-- What a text can say by a kind with parts. -/
@[simp]
def Kind.IsWritten : Kind → List Node → Prop
  | .identifier _, parts => parts = []
  | .string text value, parts => parts = [] ∧ ∃ written, text = some written ∧ Spells written value
  | _, _ => True

theorem Kind.isWritten_iff {kind : Kind} {parts : List Node} : kind.IsWritten parts ↔
    (∀ name, kind = .identifier name → parts = []) ∧
      ∀ text value, kind = .string text value →
        parts = [] ∧ ∃ written, text = some written ∧ Spells written value := by
  cases kind <;> simp

namespace Node

def IsWritten (tree : Node) : Prop :=
  ∀ position node, tree.at? position = some node → node.kind.IsWritten node.parts

variable {tree : Node}

theorem IsWritten.isPlain (written : tree.IsWritten) : tree.IsPlain := by
  intro position node found named
  have told := written position node found
  rcases named with ⟨name, same⟩ | ⟨text, value, same⟩
  · rw [same] at told
    exact told
  · rw [same] at told
    exact told.1

/-- The specifier of a dependency is what the string in its call spells. -/
theorem IsWritten.spells (written : tree.IsWritten) {position : List Nat} {specifier : String}
    (depends : tree.DependsAt position specifier) :
    ∃ spelling start finish,
      tree.faceAt? (position ++ [1]) = some ⟨.string (some spelling) specifier, start, finish⟩ ∧
        Spells spelling specifier := by
  rcases depends with ⟨_, found, ⟨⟩⟩
  rename_i textStart textFinish text _ textParts
  have argument : tree.at? (position ++ [1]) =
      some (.mk (.string text specifier) textStart textFinish textParts) := by
    rw [at?_append, found]
    rfl
  rcases written _ _ argument with ⟨-, spelling, rfl, spells⟩
  refine ⟨spelling, textStart, textFinish, ?_, spells⟩
  rw [faceAt?, argument]
  rfl

end Node

/-- The parts of a node of a kind, in the order of the text: the body of a `do`
loop stands before its condition, and what a class extends before its members. -/
def Kind.inText (kind : Kind) (parts : List Node) : List Node :=
  if kind = .doStatement then parts.reverse
  else if kind = .classLike then parts.take 1 ++ (parts.drop 1).reverse
  else parts

theorem Kind.inText_of_ne {kind : Kind} (notLoop : kind ≠ .doStatement)
    (notClass : kind ≠ .classLike) (parts : List Node) : kind.inText parts = parts := by
  rw [inText, if_neg notLoop, if_neg notClass]

/-- Whether nothing is asked of the parts of a node of a kind but that they stand
one after the other, in the order in which they are kept. -/
def Kind.isOrdinary : Kind → Bool
  | .absent => false
  | .doStatement => false
  | .classLike => false
  | .call false => false
  | .identifier _ => false
  | .string _ _ => false
  | _ => true

theorem Kind.ne_absent_of_isOrdinary {kind : Kind} (ordinary : kind.isOrdinary = true) :
    kind ≠ .absent := by
  rintro rfl
  cases ordinary

theorem Kind.ne_call_of_isOrdinary {kind : Kind} (ordinary : kind.isOrdinary = true) :
    kind ≠ .call false := by
  rintro rfl
  cases ordinary

theorem Kind.inText_of_isOrdinary {kind : Kind} (ordinary : kind.isOrdinary = true)
    (parts : List Node) : kind.inText parts = parts := by
  apply inText_of_ne
  · rintro rfl
    cases ordinary
  · rintro rfl
    cases ordinary

theorem Kind.isWritten_of_isOrdinary {kind : Kind} (ordinary : kind.isOrdinary = true)
    (parts : List Node) : kind.IsWritten parts := by
  apply isWritten_iff.mpr
  constructor
  · rintro name rfl
    cases ordinary
  · rintro text value rfl
    cases ordinary

/-- The order of the text is another order of the same parts. -/
theorem Kind.mem_inText {kind : Kind} {parts : List Node} {part : Node} :
    part ∈ kind.inText parts ↔ part ∈ parts := by
  rw [inText]
  split
  · exact List.mem_reverse
  · split
    · rw [List.mem_append, List.mem_reverse, ← List.mem_append, List.take_append_drop]
    · exact .rfl

namespace Node

variable {low high : Nat} {node part : Node} {parts : List Node}

/-- Nodes stand one after the other within bounds, those that are not missing. -/
def Rise (low : Nat) : List Node → Nat → Prop
  | [], _ => True
  | part :: rest, high =>
    if part.isAbsent then Rise low rest high
    else low ≤ part.start ∧ part.start ≤ part.finish ∧ part.finish ≤ high ∧
      Rise part.finish rest high

theorem rise_cons : Rise low (part :: parts) high ↔
    part.isAbsent = true ∧ Rise low parts high ∨
      part.isAbsent = false ∧ low ≤ part.start ∧ part.start ≤ part.finish ∧
        part.finish ≤ high ∧ Rise part.finish parts high := by
  rw [Rise]
  cases part.isAbsent <;> simp

theorem Rise.widen {lower higher : Nat} (rise : Rise low parts high) (below : lower ≤ low)
    (above : high ≤ higher) : Rise lower parts higher := by
  induction parts generalizing low lower with
  | nil => trivial
  | cons part rest induction =>
      rw [rise_cons] at rise ⊢
      rcases rise with ⟨missing, later⟩ | ⟨present, starts, forward, ends, later⟩
      · exact .inl ⟨missing, induction later below⟩
      · exact .inr ⟨present, by omega, forward, by omega, induction later (Nat.le_refl _)⟩

/-- Whatever is not missing stands within the bounds. -/
theorem Rise.bounds (rise : Rise low parts high) (listed : part ∈ parts)
    (present : part.isAbsent = false) :
    low ≤ part.start ∧ part.start ≤ part.finish ∧ part.finish ≤ high := by
  induction parts generalizing low with
  | nil => cases listed
  | cons first rest induction =>
      rcases rise_cons.mp rise with ⟨missing, later⟩ | ⟨-, starts, forward, ends, later⟩
      · rcases List.mem_cons.mp listed with rfl | inRest
        · rw [missing] at present
          cases present
        · exact induction later inRest
      · rcases List.mem_cons.mp listed with rfl | inRest
        · exact ⟨starts, forward, ends⟩
        · rcases induction later inRest with ⟨partStarts, partForward, partEnds⟩
          exact ⟨by omega, partForward, partEnds⟩

/-- Nodes that stand behind others make one row with them. -/
theorem Rise.append {middle : Nat} {more : List Node} (rise : Rise low parts middle)
    (later : Rise middle more high) (below : low ≤ middle) (above : middle ≤ high) :
    Rise low (parts ++ more) high := by
  induction parts generalizing low with
  | nil => exact later.widen below (Nat.le_refl _)
  | cons part rest induction =>
      rw [List.cons_append, rise_cons]
      rcases rise_cons.mp rise with ⟨missing, others⟩ | ⟨present, starts, forward, ends, others⟩
      · exact .inl ⟨missing, induction others below⟩
      · exact .inr ⟨present, starts, forward, Nat.le_trans ends above, induction others ends⟩

/-- A missing part stands nowhere, so it changes nothing. -/
theorem Rise.missing (rise : Rise low parts high) : Rise low (parts ++ [absent]) high := by
  induction parts generalizing low with
  | nil => exact rise_cons.mpr (.inl ⟨rfl, trivial⟩)
  | cons part rest induction =>
      rw [List.cons_append, rise_cons]
      rcases rise_cons.mp rise with ⟨missing, others⟩ | ⟨present, starts, forward, ends, others⟩
      · exact .inl ⟨missing, induction others⟩
      · exact .inr ⟨present, starts, forward, ends, induction others⟩

/-- Nodes stand before the end of the last of them. -/
theorem Rise.upTo {last : Node} (rise : Rise low (parts ++ [last]) high)
    (present : last.isAbsent = false) : Rise low (parts ++ [last]) last.finish := by
  induction parts generalizing low with
  | nil =>
      rcases rise_cons.mp rise with ⟨missing, -⟩ | ⟨-, starts, forward, -, -⟩
      · rw [missing] at present
        cases present
      · exact rise_cons.mpr (.inr ⟨present, starts, forward, Nat.le_refl _, trivial⟩)
  | cons part rest induction =>
      rw [List.cons_append, rise_cons] at rise ⊢
      rcases rise with ⟨missing, later⟩ | ⟨first, starts, forward, ends, later⟩
      · exact .inl ⟨missing, induction later⟩
      · have behind := later.bounds (List.mem_append_right rest List.mem_cons_self) present
        exact .inr ⟨first, starts, forward, by omega, induction later⟩

/-- Of two nodes that are not missing, the first ends before the second starts. -/
theorem Rise.pairwise (rise : Rise low parts high) :
    parts.Pairwise fun part later =>
      part.isAbsent = false → later.isAbsent = false → part.finish ≤ later.start := by
  induction parts generalizing low with
  | nil => exact .nil
  | cons part rest induction =>
      rcases rise_cons.mp rise with ⟨missing, later⟩ | ⟨-, -, -, -, later⟩
      · refine .cons ?_ (induction later)
        intro other _ present
        rw [missing] at present
        cases present
      · exact .cons (fun other listed _ present => (later.bounds listed present).1)
          (induction later)

/-! ## Placed trees -/

/-- The parts of a node stand within it and one after the other, and are what a text
can say by its kind.  A missing node has none, and a call is not empty. -/
structure HoldsParts (node : Node) : Prop where
  rise : Rise node.start (node.kind.inText node.parts) node.finish
  empty : node.kind = .absent → node.parts = []
  filled : node.kind = .call false → node.start < node.finish
  written : node.kind.IsWritten node.parts

/-- Every node of a tree holds its parts. -/
def IsPlaced (tree : Node) : Prop :=
  ∀ position node, tree.at? position = some node → node.HoldsParts

theorem IsPlaced.isWritten {tree : Node} (placed : tree.IsPlaced) : tree.IsWritten :=
  fun position node found => (placed position node found).written

def ArePlaced (parts : List Node) : Prop :=
  ∀ part ∈ parts, part.IsPlaced

/-- None of some nodes is missing. -/
def ArePresent (parts : List Node) : Prop :=
  ∀ part ∈ parts, part.isAbsent = false

theorem arePlaced_nil : ArePlaced [] ↔ True :=
  iff_true_intro (List.forall_mem_nil _)

theorem arePlaced_cons : ArePlaced (part :: parts) ↔ part.IsPlaced ∧ ArePlaced parts :=
  List.forall_mem_cons

theorem arePresent_cons :
    ArePresent (part :: parts) ↔ part.isAbsent = false ∧ ArePresent parts :=
  List.forall_mem_cons

/-- A node is placed if it holds its parts and these are placed. -/
theorem isPlaced_mk_iff {kind : Kind} {start finish : Nat} {parts : List Node} :
    (Node.mk kind start finish parts).IsPlaced ↔
      Rise start (kind.inText parts) finish ∧ (kind = .absent → parts = []) ∧
        (kind = .call false → start < finish) ∧ kind.IsWritten parts ∧ ArePlaced parts := by
  constructor
  · intro placed
    rcases placed [] _ rfl with ⟨rise, empty, filled, written⟩
    refine ⟨rise, empty, filled, written, ?_⟩
    intro part listed position node found
    rcases List.mem_iff_getElem?.mp listed with ⟨index, told⟩
    apply placed (index :: position)
    rw [at?_cons, told]
    exact found
  · rintro ⟨rise, empty, filled, written, inside⟩ position node found
    cases position with
    | nil =>
        cases found
        exact ⟨rise, empty, filled, written⟩
    | cons index rest =>
        rw [at?_cons] at found
        rcases Option.bind_eq_some_iff.mp found with ⟨part, told, deeper⟩
        exact inside part (List.mem_of_getElem? told) rest node deeper

theorem isAbsent_absent : absent.isAbsent = true :=
  rfl

theorem isPlaced_absent : absent.IsPlaced := by
  rw [absent, isPlaced_mk_iff]
  exact ⟨trivial, fun _ => rfl, nofun, trivial, arePlaced_nil.mpr trivial⟩

/-- A placed node that is not missing stands within bounds. -/
structure Fits (low : Nat) (node : Node) (high : Nat) : Prop where
  placed : node.IsPlaced
  present : node.isAbsent = false
  starts : low ≤ node.start
  forward : node.start ≤ node.finish
  ends : node.finish ≤ high

/-- A placed node stands within bounds, unless it is missing. -/
abbrev MayFit (low : Nat) (node : Node) (high : Nat) : Prop :=
  node.IsPlaced ∧ (node.isAbsent = false →
    low ≤ node.start ∧ node.start ≤ node.finish ∧ node.finish ≤ high)

/-- Placed nodes stand within bounds and one after the other. -/
abbrev Row (low : Nat) (parts : List Node) (high : Nat) : Prop :=
  ArePlaced parts ∧ Rise low parts high

theorem Fits.widen {lower higher : Nat} (fits : Fits low node high) (below : lower ≤ low)
    (above : high ≤ higher) : Fits lower node higher where
  placed := fits.placed
  present := fits.present
  starts := Nat.le_trans below fits.starts
  forward := fits.forward
  ends := Nat.le_trans fits.ends above

/-- A node that stands within bounds is not between them in vain. -/
theorem Fits.low_le (fits : Fits low node high) : low ≤ high :=
  Nat.le_trans fits.starts (Nat.le_trans fits.forward fits.ends)

/-- A node stands where it starts and ends. -/
theorem Fits.inPlace (fits : Fits low node high) : Fits node.start node node.finish where
  placed := fits.placed
  present := fits.present
  starts := Nat.le_refl _
  forward := fits.forward
  ends := Nat.le_refl _

theorem Fits.behindStart (fits : Fits low node high) : Fits node.start node high :=
  fits.inPlace.widen (Nat.le_refl _) fits.ends

theorem Fits.mayFit (fits : Fits low node high) : MayFit low node high :=
  ⟨fits.placed, fun _ => ⟨fits.starts, fits.forward, fits.ends⟩⟩

/-- A missing node stands within all bounds. -/
theorem mayFit_absent (low high : Nat) : MayFit low absent high := by
  refine ⟨isPlaced_absent, fun present => ?_⟩
  rw [isAbsent_absent] at present
  cases present

/-- Nothing more is asked of a node of an ordinary kind. -/
theorem isPlaced_mk_iff_of_isOrdinary {kind : Kind} {start finish : Nat}
    (ordinary : kind.isOrdinary = true) :
    (Node.mk kind start finish parts).IsPlaced ↔ Row start parts finish := by
  rw [isPlaced_mk_iff, Kind.inText_of_isOrdinary ordinary]
  constructor
  · rintro ⟨rise, -, -, -, placed⟩
    exact ⟨placed, rise⟩
  · rintro ⟨placed, rise⟩
    exact ⟨rise, fun missing => absurd missing (Kind.ne_absent_of_isOrdinary ordinary),
      fun called => absurd called (Kind.ne_call_of_isOrdinary ordinary),
      Kind.isWritten_of_isOrdinary ordinary parts, placed⟩

theorem Row.nil (low high : Nat) : Row low [] high :=
  ⟨arePlaced_nil.mpr trivial, trivial⟩

theorem Row.missing (row : Row low parts high) : Row low (parts ++ [absent]) high :=
  ⟨List.forall_mem_append.mpr ⟨row.1, arePlaced_cons.mpr ⟨isPlaced_absent, List.forall_mem_nil _⟩⟩,
    row.2.missing⟩

/-- A node before a row makes one row with it, also if it is missing. -/
theorem MayFit.cons {middle next : Nat} (fits : MayFit low node middle)
    (row : Row next parts high) (below : low ≤ next) (behind : middle ≤ next)
    (above : middle ≤ high) : Row low (node :: parts) high := by
  rcases fits with ⟨placed, within⟩
  refine ⟨arePlaced_cons.mpr ⟨placed, row.1⟩, rise_cons.mpr ?_⟩
  cases present : node.isAbsent with
  | true => exact .inl ⟨rfl, row.2.widen below (Nat.le_refl _)⟩
  | false =>
      rcases within present with ⟨starts, forward, ends⟩
      exact .inr ⟨rfl, starts, forward, Nat.le_trans ends above,
        row.2.widen (Nat.le_trans ends behind) (Nat.le_refl _)⟩

theorem MayFit.row (fits : MayFit low node high) : Row low [node] high :=
  fits.cons (.nil (max low high) high) (Nat.le_max_left _ _) (Nat.le_max_right _ _)
    (Nat.le_refl _)

theorem Row.widen {lower higher : Nat} (row : Row low parts high) (below : lower ≤ low)
    (above : high ≤ higher) : Row lower parts higher :=
  ⟨row.1, row.2.widen below above⟩

theorem Row.append {middle : Nat} {more : List Node} (row : Row low parts middle)
    (later : Row middle more high) (below : low ≤ middle) (above : middle ≤ high) :
    Row low (parts ++ more) high :=
  ⟨List.forall_mem_append.mpr ⟨row.1, later.1⟩, row.2.append later.2 below above⟩

/-- A node whose parts make a row in the text stands from the place where the row
may start to the place where it may end. -/
theorem fits_of_row {kind : Kind} {start finish : Nat}
    (row : Row start (kind.inText parts) finish) (forward : start ≤ finish)
    (present : kind ≠ .absent) (filled : kind = .call false → start < finish)
    (written : kind.IsWritten parts) : Fits start (.mk kind start finish parts) finish := by
  refine ⟨?_, decide_eq_false present, Nat.le_refl _, forward, Nat.le_refl _⟩
  rw [isPlaced_mk_iff]
  refine ⟨row.2, fun missing => absurd missing present, filled, written, ?_⟩
  intro part listed
  exact row.1 part (Kind.mem_inText.mpr listed)

theorem fits_mk {kind : Kind} {start finish : Nat} (ordinary : kind.isOrdinary = true)
    (row : Row start parts finish) (forward : start ≤ finish) :
    Fits start (.mk kind start finish parts) finish where
  placed := (isPlaced_mk_iff_of_isOrdinary ordinary).mpr row
  present := decide_eq_false (Kind.ne_absent_of_isOrdinary ordinary)
  starts := Nat.le_refl _
  forward := forward
  ends := Nat.le_refl _

/-- A call stands where its parts may stand, if it is not empty. -/
theorem fits_call {start finish : Nat} (row : Row start parts finish) (filled : start < finish) :
    Fits start (.mk (.call false) start finish parts) finish :=
  fits_of_row row (Nat.le_of_lt filled) nofun (fun _ => filled) trivial

/-- A variable has no parts. -/
theorem fits_identifier (name : String) {start finish : Nat} (forward : start ≤ finish) :
    Fits start (.mk (.identifier name) start finish []) finish :=
  fits_of_row (.nil _ _) forward nofun nofun rfl

/-- The variable that has the name of a key stands where the key stands. -/
theorem Fits.asVariable (fits : Fits low node high) (name : String) :
    Fits low (.mk (.identifier name) node.start node.finish []) high :=
  (fits_identifier name fits.forward).widen fits.starts fits.ends

/-- A string has no parts, and its spelling has its value. -/
theorem fits_string {text value : String} (spells : Spells text value) {start finish : Nat}
    (forward : start ≤ finish) :
    Fits start (.mk (.string (some text) value) start finish []) finish :=
  fits_of_row (.nil _ _) forward nofun nofun ⟨rfl, text, rfl, spells⟩

/-! ## Targets -/

/-- A node stands where another stands, and is placed if the other is. -/
structure Replaces (node other : Node) : Prop where
  isAbsent : node.isAbsent = other.isAbsent
  start : node.start = other.start
  finish : node.finish = other.finish
  placed : other.IsPlaced → node.IsPlaced

theorem Replaces.refl (node : Node) : node.Replaces node :=
  ⟨rfl, rfl, rfl, id⟩

theorem Replaces.fits {node other : Node} {low high : Nat} (replaces : node.Replaces other)
    (fits : other.Fits low high) : node.Fits low high where
  placed := replaces.placed fits.placed
  present := replaces.isAbsent.trans fits.present
  starts := replaces.start ▸ fits.starts
  forward := by
    rw [replaces.start, replaces.finish]
    exact fits.forward
  ends := replaces.finish ▸ fits.ends

/-- Nodes that stand where others stand are in a row if the others are. -/
theorem row_of_replaces {parts others : List Node} (replaced : List.Forall₂ Replaces parts others)
    {low high : Nat} (row : Row low others high) : Row low parts high := by
  rcases row with ⟨placed, rise⟩
  induction replaced generalizing low with
  | nil => exact ⟨placed, rise⟩
  | @cons part other parts others first _ induction =>
      rcases arePlaced_cons.mp placed with ⟨otherPlaced, othersPlaced⟩
      have partPlaced := first.placed otherPlaced
      rcases rise_cons.mp rise with ⟨missing, later⟩ | ⟨present, starts, forward, ends, later⟩
      · rcases induction othersPlaced later with ⟨partsPlaced, partsRise⟩
        exact ⟨arePlaced_cons.mpr ⟨partPlaced, partsPlaced⟩,
          rise_cons.mpr (.inl ⟨first.isAbsent.trans missing, partsRise⟩)⟩
      · rw [← first.finish] at later
        rcases induction othersPlaced later with ⟨partsPlaced, partsRise⟩
        refine ⟨arePlaced_cons.mpr ⟨partPlaced, partsPlaced⟩, rise_cons.mpr (.inr ?_)⟩
        rw [first.isAbsent, first.start, first.finish]
        exact ⟨present, starts, forward, ends, first.finish ▸ partsRise⟩

/-- A node whose kind changes stands where it stood if its parts do. -/
theorem replaces_mk {kind otherKind : Kind} {parts others : List Node} {start finish : Nat}
    (ordinary : kind.isOrdinary = true) (otherOrdinary : otherKind.isOrdinary = true)
    (placed : ∀ low high, Row low others high → Row low parts high) :
    (mk kind start finish parts).Replaces (mk otherKind start finish others) where
  isAbsent := by
    have present := decide_eq_false (Kind.ne_absent_of_isOrdinary ordinary)
    have otherPresent := decide_eq_false (Kind.ne_absent_of_isOrdinary otherOrdinary)
    exact present.trans otherPresent.symm
  start := rfl
  finish := rfl
  placed := by
    rw [isPlaced_mk_iff_of_isOrdinary ordinary, isPlaced_mk_iff_of_isOrdinary otherOrdinary]
    exact placed start finish

/-- In particular, a node stands where it stood if each of its parts does. -/
theorem replaces_of_parts {kind otherKind : Kind} {parts others : List Node} {start finish : Nat}
    (ordinary : kind.isOrdinary = true) (otherOrdinary : otherKind.isOrdinary = true)
    (replaced : List.Forall₂ Replaces parts others) :
    (mk kind start finish parts).Replaces (mk otherKind start finish others) :=
  replaces_mk ordinary otherOrdinary fun _ _ => row_of_replaces replaced

theorem forall₂_replaces_self (parts : List Node) : List.Forall₂ Replaces parts parts :=
  List.forall₂_same.mpr fun part _ => .refl part

end Node

/-- Targets stand where the nodes stand that they were turned from. -/
theorem targets_replace (binding : Bool) :
    (∀ node target, asTarget? binding node = some target → target.Replaces node) ∧
    (∀ commaAtEnd properties targets,
      asPropertyTargets? binding commaAtEnd properties = some targets →
        List.Forall₂ Node.Replaces targets properties) ∧
    ∀ commaAtEnd items targets, asItemTargets? binding commaAtEnd items = some targets →
      List.Forall₂ Node.Replaces targets items := by
  have same := Node.forall₂_replaces_self
  -- the cases are those of the three definitions, in their order
  apply asTarget?.mutual_induct binding
  -- a list or an object
  case case1 | case2 =>
    intro commaAtEnd start finish parts induction target turned
    rw [asTarget?] at turned
    rcases Option.bind_eq_some_iff.mp turned with ⟨targets, partsTurned, ⟨⟩⟩
    exact Node.replaces_of_parts rfl rfl (induction targets partsTurned)
  -- an assignment becomes a target with a default
  case case3 =>
    intro start finish target value induction whole turned
    rw [asTarget?, if_pos rfl] at turned
    rcases Option.bind_eq_some_iff.mp turned with ⟨inner, innerTurned, ⟨⟩⟩
    exact Node.replaces_of_parts rfl rfl (.cons (induction inner innerTurned) (same [value]))
  case case4 =>
    intro operator start finish target value other whole turned
    rw [asTarget?, if_neg other] at turned
    cases turned
  -- patterns, and targets with a default, may hold expressions still
  case case5 | case6 =>
    intro start finish parts induction target turned
    rw [asTarget?] at turned
    rcases Option.bind_eq_some_iff.mp turned with ⟨targets, partsTurned, ⟨⟩⟩
    exact Node.replaces_of_parts rfl rfl (induction targets partsTurned)
  case case7 =>
    intro start finish target value induction whole turned
    rw [asTarget?] at turned
    rcases Option.bind_eq_some_iff.mp turned with ⟨inner, innerTurned, ⟨⟩⟩
    exact Node.replaces_of_parts rfl rfl (.cons (induction inner innerTurned) (same [value]))
  -- any other node is a target as it is, or none
  case case8 =>
    intros
    simp_all only [asTarget?, if_true, Option.some.injEq]
    exact .refl _
  case case9 =>
    intros
    simp_all only [asTarget?, Bool.false_eq_true, if_false, reduceCtorEq]
  -- properties: the value of a key is turned
  case case10 =>
    intro commaAtEnd targets turned
    rw [asPropertyTargets?] at turned
    cases turned
    exact .nil
  case case11 | case12 =>
    intro commaAtEnd start finish key value rest valueInduction restInduction targets turned
    rw [asPropertyTargets?] at turned
    rcases Option.bind_eq_some_iff.mp turned with ⟨target, valueTurned, later⟩
    rcases Option.bind_eq_some_iff.mp later with ⟨others, restTurned, ⟨⟩⟩
    have inside := List.Forall₂.cons (.refl key) (.cons (valueInduction target valueTurned) .nil)
    exact .cons (Node.replaces_of_parts rfl rfl inside) (restInduction others restTurned)
  -- a variable that is its own key gets no value, or the one it had
  case case13 =>
    intro commaAtEnd start finish name rest restInduction targets turned
    rw [asPropertyTargets?] at turned
    rcases Option.bind_eq_some_iff.mp turned with ⟨others, restTurned, later⟩
    split at later
    · cases later
      refine .cons (Node.replaces_mk rfl rfl fun _ _ row => ?_) (restInduction others restTurned)
      exact row.missing
    · cases later
  case case14 =>
    intro commaAtEnd start finish name value rest restInduction targets turned
    rw [asPropertyTargets?] at turned
    rcases Option.bind_eq_some_iff.mp turned with ⟨others, restTurned, later⟩
    split at later
    · cases later
      exact .cons (Node.replaces_of_parts rfl rfl (same _)) (restInduction others restTurned)
    · cases later
  case case15 =>
    intro commaAtEnd start finish parts rest restInduction targets turned
    rw [asPropertyTargets?] at turned
    rcases Option.bind_eq_some_iff.mp turned with ⟨others, restTurned, ⟨⟩⟩
    exact .cons (.refl _) (restInduction others restTurned)
  -- the rest of an object comes last
  case case16 =>
    intro commaAtEnd start finish inner rest isLast targets turned
    rw [asPropertyTargets?, if_pos isLast] at turned
    cases turned
    rw [Bool.and_eq_true, Bool.and_eq_true, List.isEmpty_iff] at isLast
    rcases isLast with ⟨⟨rfl, -⟩, -⟩
    exact .cons (Node.replaces_of_parts rfl rfl (same _)) .nil
  case case18 =>
    intro commaAtEnd start finish inner rest isLast targets turned
    rw [asPropertyTargets?, if_pos isLast] at turned
    cases turned
    rw [Bool.and_eq_true, List.isEmpty_iff] at isLast
    rcases isLast with ⟨rfl, -⟩
    exact .cons (.refl _) .nil
  case case17 | case19 =>
    intro commaAtEnd start finish inner rest notLast targets turned
    rw [asPropertyTargets?, if_neg notLast] at turned
    cases turned
  case case20 =>
    intros
    simp_all only [asPropertyTargets?, reduceCtorEq]
  -- items: a hole stays a hole
  case case21 =>
    intro commaAtEnd targets turned
    rw [asItemTargets?] at turned
    cases turned
    exact .nil
  case case22 =>
    intro commaAtEnd start finish parts rest restInduction targets turned
    rw [asItemTargets?] at turned
    rcases Option.bind_eq_some_iff.mp turned with ⟨others, restTurned, ⟨⟩⟩
    exact .cons (.refl _) (restInduction others restTurned)
  -- the rest of a list comes last
  case case23 =>
    intro commaAtEnd start finish inner rest isLast induction targets turned
    rw [asItemTargets?, if_pos isLast] at turned
    rcases Option.bind_eq_some_iff.mp turned with ⟨target, innerTurned, later⟩
    rw [Bool.and_eq_true, List.isEmpty_iff] at isLast
    rcases isLast with ⟨rfl, -⟩
    split at later
    · cases later
    · cases later
      have inside := List.Forall₂.cons (induction target innerTurned) .nil
      exact .cons (Node.replaces_of_parts rfl rfl inside) .nil
  case case24 =>
    intro commaAtEnd start finish inner rest notLast targets turned
    rw [asItemTargets?, if_neg notLast] at turned
    cases turned
  case case25 =>
    intro commaAtEnd start finish inner rest isLast induction targets turned
    rw [asItemTargets?, if_pos isLast] at turned
    rcases Option.bind_eq_some_iff.mp turned with ⟨target, innerTurned, ⟨⟩⟩
    rcases List.isEmpty_iff.mp isLast with rfl
    have inside := List.Forall₂.cons (induction target innerTurned) .nil
    exact .cons (Node.replaces_of_parts rfl rfl inside) .nil
  case case26 =>
    intro commaAtEnd start finish inner rest notLast targets turned
    rw [asItemTargets?, if_neg notLast] at turned
    cases turned
  -- any other item is a target
  case case27 =>
    intro commaAtEnd first rest notAbsent notSpread notRest firstInduction restInduction targets
      turned
    rw [asItemTargets?] at turned
    · rcases Option.bind_eq_some_iff.mp turned with ⟨target, firstTurned, later⟩
      rcases Option.bind_eq_some_iff.mp later with ⟨others, restTurned, ⟨⟩⟩
      exact .cons (firstInduction target firstTurned) (restInduction others restTurned)
    · exact notAbsent
    · exact notSpread
    · exact notRest

theorem asTarget?_replaces {binding : Bool} {node target : Node}
    (turned : asTarget? binding node = some target) : target.Replaces node :=
  (targets_replace binding).1 node target turned

/-- Parameters stand where the items stand that they were turned from. -/
theorem asParameters?_replaces {commaAtEnd : Bool} {items targets : List Node}
    (turned : asParameters? commaAtEnd items = some targets) :
    List.Forall₂ Node.Replaces targets items := by
  rw [asParameters?] at turned
  split at turned
  · cases turned
  · exact (targets_replace true).2.2 commaAtEnd items targets turned

/-! ## Sequences and operators -/

namespace Reader

variable {low high : Nat}

/-- Some nodes are one node alone or a sequence of them. -/
theorem sequenceNode_fits {items : List Node} (row : Node.Row low items high)
    (present : Node.ArePresent items) (filled : items ≠ []) :
    Node.Fits low (sequenceNode items) high := by
  rcases row with ⟨placed, rise⟩
  unfold sequenceNode
  split
  · have onlyPresent := present _ List.mem_cons_self
    rcases rise.bounds List.mem_cons_self onlyPresent with ⟨starts, forward, ends⟩
    exact ⟨placed _ List.mem_cons_self, onlyPresent, starts, forward, ends⟩
  · rename_i first others last _ isLast
    have firstPresent := present first List.mem_cons_self
    have lastPresent := present last (List.mem_of_getLast? isLast)
    have bounds := rise.bounds (List.mem_of_getLast? isLast) lastPresent
    rcases List.getLast?_eq_some_iff.mp isLast with ⟨front, cut⟩
    have upTo : Node.Rise low (first :: others) last.finish := by
      rw [cut] at rise ⊢
      exact rise.upTo lastPresent
    rcases Node.rise_cons.mp upTo with ⟨missing, -⟩ | ⟨-, starts, forward, ends, later⟩
    · rw [firstPresent] at missing
      cases missing
    · have own : Node.Rise first.start (first :: others) last.finish :=
        Node.rise_cons.mpr (.inr ⟨firstPresent, Nat.le_refl _, forward, ends, later⟩)
      exact (Node.fits_mk rfl ⟨placed, own⟩ (Nat.le_trans forward ends)).widen starts bounds.2.2
  · rename_i notFilled
    rcases List.exists_cons_of_ne_nil filled with ⟨first, others, rfl⟩
    exact (notFilled first others _ rfl (List.getLast?_eq_some_getLast filled)).elim

/-- An operator stands where its operands stand. -/
theorem binaryNode_fits {left right : Node} (operator : String)
    (leftFits : Node.Fits left.start left right.start) (fits : Node.Fits right.start right high) :
    Node.Fits left.start (binaryNode operator left right) high := by
  have row : Node.Row left.start [left, right] right.finish :=
    leftFits.mayFit.cons fits.inPlace.mayFit.row leftFits.low_le (Nat.le_refl _) fits.forward
  have forward := Nat.le_trans leftFits.low_le fits.forward
  exact (Node.fits_mk rfl row forward).widen (Nat.le_refl _) fits.ends

/-- The operands that wait, latest first, stand before a place. -/
def Waits (low : Nat) : List (Node × String) → Nat → Prop
  | [], high => low ≤ high
  | (left, _) :: waiting, high => Node.Fits left.start left high ∧ Waits low waiting left.start

theorem waits_cons {left : Node} {operator : String} {waiting : List (Node × String)} :
    Waits low ((left, operator) :: waiting) high ↔
      Node.Fits left.start left high ∧ Waits low waiting left.start :=
  .rfl

theorem Waits.low_le {waiting : List (Node × String)} (waits : Waits low waiting high) :
    low ≤ high := by
  induction waiting generalizing high with
  | nil => exact waits
  | cons first rest induction =>
      rcases waits with ⟨fits, later⟩
      exact Nat.le_trans (induction later) (Nat.le_trans fits.forward fits.ends)

/-- Waiting operators that are applied take their operands along. -/
theorem applyWaiting_fits (power : Nat) {current : Node} {waiting : List (Node × String)}
    (fits : Node.Fits current.start current high) (waits : Waits low waiting current.start) :
    Node.Fits (applyWaiting power current waiting).1.start (applyWaiting power current waiting).1
        high ∧
      Waits low (applyWaiting power current waiting).2
        (applyWaiting power current waiting).1.start := by
  induction waiting generalizing current with
  | nil => exact ⟨fits, waits⟩
  | cons first waiting induction =>
      rcases first with ⟨left, operator⟩
      rcases waits_cons.mp waits with ⟨leftFits, leftWaits⟩
      rw [applyWaiting]
      split
      · exact induction (binaryNode_fits operator leftFits fits) leftWaits
      · exact ⟨fits, waits⟩

/-- Operands that stand one after the other are grouped to a node that stands
where they stand. -/
theorem groupOperands_fits {current : Node} {waiting : List (Node × String)}
    {others : List (String × Node)} (fits : Node.Fits current.start current high)
    (waits : Waits low waiting current.start)
    (row : Node.Row current.finish (others.map Prod.snd) high)
    (present : Node.ArePresent (others.map Prod.snd)) :
    Node.Fits low (groupOperands current waiting others) high := by
  induction others generalizing current waiting with
  | nil =>
      rcases applyWaiting_fits 0 fits waits with ⟨resultFits, resultWaits⟩
      exact resultFits.widen resultWaits.low_le (Nat.le_refl _)
  | cons first others induction =>
      rcases first with ⟨operator, next⟩
      rcases Node.arePresent_cons.mp present with ⟨nextPresent, othersPresent⟩
      rcases Node.arePlaced_cons.mp row.1 with ⟨nextPlaced, othersPlaced⟩
      rcases Node.rise_cons.mp row.2 with ⟨missing, -⟩ | ⟨-, starts, forward, ends, later⟩
      · rw [nextPresent] at missing
        cases missing
      rw [groupOperands]
      have applied := applyWaiting_fits
        (if operator = "**" then (bindingPower operator).getD 0 + 1
          else (bindingPower operator).getD 0) fits.inPlace waits
      rcases applied with ⟨leftFits, leftWaits⟩
      apply induction
      · exact ⟨nextPlaced, nextPresent, Nat.le_refl _, forward, ends⟩
      · exact ⟨leftFits.widen (Nat.le_refl _) starts, leftWaits⟩
      · exact ⟨othersPlaced, later⟩
      · exact othersPresent

end Reader

end ScriptBundle.Script
