import ScriptBundle.Json.Document
import ScriptBundle.Unicode.Property

/-!
# Decoding documents

A decoder turns a document into a value of another type, or refuses it.  It
goes through the document in the order of the text and stops at the first
thing that does not fit, a fault of the text included.

A refusal that concerns a value as a whole gets its place from the list or the
object the value stands in: the place reached by an attempt to close that list
or object after the value.
-/

namespace ScriptBundle.Json

/-- Why a document is refused. -/
inductive Misfit where
  | fault (problem : Problem)
  | wrongKind (found expected : String)
  | unknownField (name : String) (known : List String)
  | duplicateField (name : String)
  | missingField (name : String)
  | wrongLength (length : Nat) (expected : String)
  | noAlternative (name : String)
  | invalid (reason : String)
deriving DecidableEq, Repr

def choices (names : List String) : String :=
  let marked := names.map fun name => "`" ++ name ++ "`"
  match marked with
  | [] => "there are no fields"
  | [only] => "expected " ++ only
  | [first, second] => "expected " ++ first ++ " or " ++ second
  | _ => "expected one of " ++ ", ".intercalate marked

def Misfit.message : Misfit → String
  | .fault problem => problem.message
  | .wrongKind found expected => "invalid type: " ++ found ++ ", expected " ++ expected
  | .unknownField name known => "unknown field `" ++ name ++ "`, " ++ choices known
  | .duplicateField name => "duplicate field `" ++ name ++ "`"
  | .missingField name => "missing field `" ++ name ++ "`"
  | .wrongLength length expected =>
    "invalid length " ++ toString length ++ ", expected " ++ expected
  | .noAlternative name => "data did not match any variant of untagged enum " ++ name
  | .invalid reason => reason

/-- A misfit with its place, once that is known. -/
structure Refusal where
  misfit : Misfit
  place : Option Position
deriving DecidableEq, Repr

def Refusal.message (refusal : Refusal) : String :=
  withPlace refusal.misfit.message refusal.place

/-- A refusal that takes its place from an attempt to close, unless it has
one. -/
def Refusal.settle (refusal : Refusal) (closing : Closing) : Refusal :=
  match refusal.place with
  | some _ => refusal
  | none => ⟨refusal.misfit, closing.place⟩

def Refusal.ofFault (fault : Fault) : Refusal :=
  ⟨.fault fault.problem, fault.place⟩

abbrev Decoder (Target : Type) := Document → Except Refusal Target

def kindName : Value → String
  | .null => "null"
  | .boolean value => "boolean `" ++ (if value then "true" else "false") ++ "`"
  | .number (.natural value) => "integer `" ++ toString value ++ "`"
  | .number (.negative magnitude) => "integer `-" ++ toString magnitude ++ "`"
  | .number (.real isNegative magnitude) =>
    "floating point `" ++ (if isNegative then "-" else "") ++ magnitude.text ++ "`"
  | .text value => "string " ++ Quoted.quote value
  | .list _ => "sequence"
  | .record _ => "map"

def unexpected (expected : String) : Document → Refusal
  | .broken fault => .ofFault fault
  | .scalar value finish => ⟨.wrongKind (kindName value) expected, finish⟩
  | .list start _ _ => ⟨.wrongKind "sequence" expected, start⟩
  | .record start _ _ => ⟨.wrongKind "map" expected, start⟩

def text (expected : String) : Decoder String
  | .scalar (.text value) _ => .ok value
  | document => .error (unexpected expected document)

def flag : Decoder Bool
  | .scalar (.boolean value) _ => .ok value
  | document => .error (unexpected "a boolean" document)

def optional {Target : Type} (decode : Decoder Target) : Decoder (Option Target)
  | .scalar .null _ => .ok none
  | document => (decode document).map some

def checked {Source Target : Type} (decode : Decoder Source)
    (check : Source → Except String Target) : Decoder Target := fun document => do
  let value ← decode document
  match check value with
  | .ok result => pure result
  | .error reason => throw ⟨.invalid reason, none⟩

def decodeItems {Target : Type} (decode : Decoder Target) : Items → Except Refusal (List Target)
  | .done => .ok []
  | .broken fault => .error (.ofFault fault)
  | .item value closing rest =>
    match decode value with
    | .error refusal => .error (refusal.settle closing)
    | .ok first => do pure (first :: (← decodeItems decode rest))

def listOf {Target : Type} (decode : Decoder Target) : Decoder (List Target)
  | .list _ _ items => decodeItems decode items
  | document => .error (unexpected "a sequence" document)

def anyOf {Target : Type} (name : String) (forms : List (Value → Option Target)) :
    Decoder Target := fun document =>
  match document.value with
  | .error fault => .error (.ofFault fault)
  | .ok value =>
    match forms.findSome? fun form => form value with
    | some result => .ok result
    | none => .error ⟨.noAlternative name, none⟩

/-- A field of a record: how its value changes the record read so far, and
whether it has to be there. -/
structure Field (State : Type) where
  name : String
  required : Bool
  read : Document → State → Except Refusal State

def Field.withDefault {State Target : Type} (name : String) (decode : Decoder Target)
    (set : Target → State → State) : Field State :=
  ⟨name, false, fun document state => do pure (set (← decode document) state)⟩

def Field.mandatory {State Target : Type} (name : String) (decode : Decoder Target)
    (set : Target → State → State) : Field State :=
  ⟨name, true, fun document state => do pure (set (← decode document) state)⟩

/-- Decode the members of an object; `seen` holds the fields met so far and
`closing` the attempt to close the object after them. -/
def decodeMembers {State : Type} (fields : List (Field State)) (seen : List String)
    (closing : Closing) (state : State) : Members → Except Refusal State
  | .done =>
    match fields.find? fun field => field.required && !seen.contains field.name with
    | some field => .error (Refusal.settle ⟨.missingField field.name, none⟩ closing)
    | none => .ok state
  | .broken fault => .error (.ofFault fault)
  | .member key keyClosing value after rest =>
    match fields.find? fun field => field.name = key with
    | none =>
      .error (Refusal.settle ⟨.unknownField key (fields.map Field.name), none⟩ keyClosing)
    | some field =>
      if seen.contains key then
        .error (Refusal.settle ⟨.duplicateField key, none⟩ keyClosing)
      else
        match field.read value state with
        | .error refusal => .error (refusal.settle after)
        | .ok changed => decodeMembers fields (key :: seen) after changed rest

def decodeInOrder {State : Type} (expected : String) (taken : Nat) (closing : Closing)
    (state : State) : List (Field State) → Items → Except Refusal State
  | [], _ =>
    match closing.fault with
    | some fault => .error (.ofFault fault)
    | none => .ok state
  | field :: fields, .done =>
    if field.required then
      .error (Refusal.settle ⟨.wrongLength taken expected, none⟩ closing)
    else
      decodeInOrder expected (taken + 1) closing state fields .done
  | _ :: _, .broken fault => .error (.ofFault fault)
  | field :: fields, .item value after rest =>
    match field.read value state with
    | .error refusal => .error (refusal.settle after)
    | .ok changed => decodeInOrder expected (taken + 1) after changed fields rest

/-- A record with the given fields, written as an object or as the list of its
values.  Fields that are absent leave the record as it starts. -/
def record {State : Type} (name : String) (fields : List (Field State)) (start : State) :
    Decoder State
  | .record _ closing members => decodeMembers fields [] closing start members
  | .list _ closing items =>
    let expected := name ++ " with " ++ toString fields.length ++ " elements"
    decodeInOrder expected 0 closing start fields items
  | document => .error (unexpected name document)

def decodeText {Target : Type} (decode : Decoder Target) (source : Document × Option Fault) :
    Except Refusal Target := do
  let result ← decode source.1
  match source.2 with
  | some fault => throw (.ofFault fault)
  | none => pure result

def decodeValue {Target : Type} (decode : Decoder Target) (value : Value) :
    Except Refusal Target :=
  decode (Document.ofValue value)

end ScriptBundle.Json
