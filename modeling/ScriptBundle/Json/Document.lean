import ScriptBundle.Decimal.Binary64

/-!
# JSON documents

The members of an object keep the order in which their keys first appear; a
repeated key takes the last of its values.

A document is a JSON text with the places of its parts.  A text is read as far
as it is well formed, and a fault stands in the document where it was met.
Whoever decodes the document from its start thus sees faults and misfits in
the order of the text, and reports the first.

A document that was made from a value has no places.
-/

namespace ScriptBundle.Json

/-- A number as it was written: a whole number of 64 bits, or a number of
double precision with its sign. -/
inductive Number where
  | natural (value : Nat)
  | negative (magnitude : Nat)
  | real (isNegative : Bool) (magnitude : Binary64)
deriving DecidableEq, Repr, Inhabited

/-- A JSON value. -/
inductive Value where
  | null
  | boolean (value : Bool)
  | number (value : Number)
  | text (value : String)
  | list (items : List Value)
  | record (members : List (String × Value))
deriving Repr, Inhabited

/-- Set the value of a key where it first appears, or add the key at the end. -/
def putMember {Item : Type} (key : String) (item : Item) :
    List (String × Item) → List (String × Item)
  | [] => [(key, item)]
  | member :: rest =>
    if member.1 = key then (key, item) :: rest else member :: putMember key item rest

/-- Members with each key once. -/
def mergeMembers {Item : Type} (members : List (String × Item)) : List (String × Item) :=
  members.foldl (fun merged member => putMember member.1 member.2 merged) []

/-- The first value of a key. -/
def member? {Item : Type} (members : List (String × Item)) (key : String) : Option Item :=
  (members.find? fun member => member.1 = key).map Prod.snd

theorem member?_append {Item : Type} (members others : List (String × Item)) (key : String) :
    member? (members ++ others) key = (member? members key).or (member? others key) := by
  rw [member?, List.find?_append, Option.map_or]
  rfl

theorem member?_putMember {Item : Type} (members : List (String × Item)) (added : String × Item)
    (key : String) :
    member? (putMember added.1 added.2 members) key =
      (member? [added] key).or (member? members key) := by
  induction members with
  | nil => simp [putMember, member?]
  | cons member rest induction =>
    by_cases same : member.1 = added.1
    · by_cases asked : added.1 = key <;> simp [putMember, member?, same, asked]
    · by_cases asked : member.1 = key
      · have other : added.1 ≠ key := fun equal => same (asked.trans equal.symm)
        simp [putMember, member?, asked, other, Ne.symm other]
      · simpa [putMember, member?, same, asked] using induction

/-- A repeated key takes the last of its values. -/
theorem member?_mergeMembers {Item : Type} (members : List (String × Item)) (key : String) :
    member? (mergeMembers members) key = member? members.reverse key := by
  have merged : ∀ before : List (String × Item),
      member? (members.foldl (fun merged member => putMember member.1 member.2 merged) before) key =
        (member? members.reverse key).or (member? before key) := by
    induction members with
    | nil => simp [member?]
    | cons first rest induction =>
      intro before
      rw [List.foldl_cons, induction, member?_putMember, List.reverse_cons, member?_append,
        Option.or_assoc]
  rw [mergeMembers, merged []]
  exact Option.or_none

/-- A place in a text: the line, counted from one, and how many bytes of the
line come before it. -/
structure Position where
  line : Nat
  column : Nat
deriving DecidableEq, Repr, Inhabited

/-- What can be wrong with a JSON text. -/
inductive Problem where
  | endInValue
  | endInList
  | endInObject
  | endInString
  | expectedColon
  | expectedCommaOrListEnd
  | expectedCommaOrObjectEnd
  | expectedIdentifier
  | expectedValue
  | invalidEscape
  | invalidNumber
  | numberOutOfRange
  | loneSurrogate
  | endOfHexEscape
  | controlCharacter
  | keyNotString
  | trailingComma
  | trailingCharacters
  | recursionLimit
  /-- A list of the given length has more items than were taken. -/
  | surplusItems (length : Nat)
deriving DecidableEq, Repr

def Problem.message : Problem → String
  | .endInValue => "EOF while parsing a value"
  | .endInList => "EOF while parsing a list"
  | .endInObject => "EOF while parsing an object"
  | .endInString => "EOF while parsing a string"
  | .expectedColon => "expected `:`"
  | .expectedCommaOrListEnd => "expected `,` or `]`"
  | .expectedCommaOrObjectEnd => "expected `,` or `\x7d`"
  | .expectedIdentifier => "expected ident"
  | .expectedValue => "expected value"
  | .invalidEscape => "invalid escape"
  | .invalidNumber => "invalid number"
  | .numberOutOfRange => "number out of range"
  | .loneSurrogate => "lone leading surrogate in hex escape"
  | .endOfHexEscape => "unexpected end of hex escape"
  | .controlCharacter => "control character (\\u0000-\\u001F) found while parsing a string"
  | .keyNotString => "key must be a string"
  | .trailingComma => "trailing comma"
  | .trailingCharacters => "trailing characters"
  | .recursionLimit => "recursion limit exceeded"
  | .surplusItems length =>
    "invalid length " ++ toString length ++ ", expected fewer elements in array"

def withPlace (message : String) : Option Position → String
  | some place =>
    message ++ " at line " ++ toString place.line ++ " column " ++ toString place.column
  | none => message

/-- A problem and where it was met. -/
structure Fault where
  problem : Problem
  place : Option Position
deriving DecidableEq, Repr

def Fault.message (fault : Fault) : String :=
  withPlace fault.problem.message fault.place

/-- What happens when a list or an object is closed after a part of it: how
far the text is read in the attempt, and the fault if more parts follow. -/
structure Closing where
  place : Option Position
  fault : Option Fault
deriving DecidableEq, Repr

mutual

/-- A JSON text as far as it is well formed. -/
inductive Document where
  /-- A value without parts, and the place after it. -/
  | scalar (value : Value) (finish : Option Position)
  /-- A list, with the place before it and the attempt to close it at once. -/
  | list (start : Option Position) (closing : Closing) (items : Items)
  /-- An object, with the place before it and the attempt to close it at once. -/
  | record (start : Option Position) (closing : Closing) (members : Members)
  /-- A text that does not start with a value. -/
  | broken (fault : Fault)

/-- The items of a list. -/
inductive Items where
  | done
  | broken (fault : Fault)
  /-- An item, the attempt to close the list after it, and the items after it. -/
  | item (value : Document) (closing : Closing) (rest : Items)

/-- The members of an object. -/
inductive Members where
  | done
  | broken (fault : Fault)
  /-- A key with the attempt to close the object after it, its value with the
  attempt after that, and the members after it. -/
  | member (key : String) (keyClosing : Closing) (value : Document) (closing : Closing)
      (rest : Members)

end

mutual

def Document.value : Document → Except Fault Value
  | .scalar value _ => .ok value
  | .list _ _ items => do pure (.list (← items.values))
  | .record _ _ members => do pure (.record (mergeMembers (← members.values)))
  | .broken fault => .error fault

def Items.values : Items → Except Fault (List Value)
  | .done => .ok []
  | .broken fault => .error fault
  | .item value _ rest => do
    let first ← value.value
    pure (first :: (← rest.values))

/-- The keys and values of all members, as often as they are written. -/
def Members.values : Members → Except Fault (List (String × Value))
  | .done => .ok []
  | .broken fault => .error fault
  | .member key _ value _ rest => do
    let first ← value.value
    pure ((key, first) :: (← rest.values))

end

/-- Closing a list of the given length, `remaining` of whose items are not yet
taken. -/
def closingOfRemaining (length remaining : Nat) : Closing :=
  ⟨none, if remaining = 0 then none else some ⟨.surplusItems length, none⟩⟩

/-- Closing where nothing can follow. -/
def Closing.clean : Closing :=
  ⟨none, none⟩

mutual

def Document.ofValue : Value → Document
  | .list items =>
    .list none (closingOfRemaining items.length items.length)
      (Items.ofValues items.length items)
  | .record members => .record none .clean (Members.ofValues members)
  | .null => .scalar .null none
  | .boolean value => .scalar (.boolean value) none
  | .number value => .scalar (.number value) none
  | .text value => .scalar (.text value) none

def Items.ofValues (length : Nat) : List Value → Items
  | [] => .done
  | first :: rest =>
    .item (Document.ofValue first) (closingOfRemaining length rest.length)
      (Items.ofValues length rest)

def Members.ofValues : List (String × Value) → Members
  | [] => .done
  | (key, value) :: rest =>
    .member key .clean (Document.ofValue value) .clean (Members.ofValues rest)

end

end ScriptBundle.Json
