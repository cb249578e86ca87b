import AccountPortal.Json.Reader

/-!
Records: values of a known form. A `Shape` tells a value of its type both from
text, with faults that say what is wrong and where, and from a tree that has
been read already, with no more than yes or no.

A record is written as an object with its fields in any order, or as an array of
them in the order of declaration. Members with other names are stepped over; a
field named twice is a fault.
-/

namespace AccountPortal.Json

/-- How a value of type `α` is told from JSON. -/
structure Shape (α : Type) where
  read : List Char → Read α
  ofTree? : Value → Option α

def Shape.map {α β : Type} (f : α → β) (s : Shape α) : Shape β where
  read text := (s.read text).map fun (a, rest) => (f a, rest)
  ofTree? v := (s.ofTree? v).map f

def isInt64 (i : Int) : Bool := -0x8000000000000000 ≤ i && i < 0x8000000000000000

def asInt64 : Read Number → Read Int
  | .error f => .error f
  | .ok (.integer i, rest) =>
    if isInt64 i then .ok (i, rest)
    else .error (.before (.wrongValue (.integer i) "i64") rest)
  | .ok (.double x, rest) => .error (.before (.wrongType (.double x) "i64") rest)

def readInt64 (s : List Char) : Read Int :=
  match skipBlanks s with
  | [] => .error (.before .endInValue [])
  | '-' :: rest => asInt64 (readNumber true rest)
  | c :: rest =>
    if isDigit c then asInt64 (readNumber false (c :: rest))
    else .error (wrongType "i64" (c :: rest))

def Shape.int64 : Shape Int where
  read := readInt64
  ofTree?
    | .number (.integer i) => if isInt64 i then some i else none
    | _ => none

def Shape.text : Shape String where
  read s := (readText "a string" s).map fun (t, rest) => (String.ofList t, rest)
  ofTree? := Value.text?

def readFlag (s : List Char) : Read Bool :=
  match skipBlanks s with
  | [] => .error (.before .endInValue [])
  | 't' :: rest => (readTrue rest).map fun (_, rest) => (true, rest)
  | 'f' :: rest => (readFalse rest).map fun (_, rest) => (false, rest)
  | rest => .error (wrongType "a boolean" rest)

def Shape.flag : Shape Bool where
  read := readFlag
  ofTree?
    | .bool b => some b
    | _ => none

def Shape.optional {α : Type} (shape : Shape α) : Shape (Option α) where
  read s :=
    match skipBlanks s with
    | 'n' :: rest => (readNull rest).map fun (_, rest) => (none, rest)
    | rest => (shape.read rest).map fun (a, rest) => (some a, rest)
  ofTree?
    | .null => some none
    | v => (shape.ofTree? v).map some

/-- A field of a record. A draft of type `σ` collects the fields as they come;
`setFrom` yields how the value that was read changes the draft. -/
structure Field (σ : Type) where
  name : String
  required : Bool
  isSet : σ → Bool
  setFrom : Shape (σ → σ)

/-- A field of the given shape. -/
def Field.of {σ α : Type} (name : String) (required : Bool) (get : σ → Option α)
    (set : α → σ → σ) (shape : Shape α) : Field σ :=
  ⟨name, required, fun draft => (get draft).isSome, shape.map set⟩

/-- The form of a record: what a fault calls it, its fields in order, and how a
draft becomes a record or lacks a field. -/
structure RecordForm (σ α : Type) where
  title : String
  empty : σ
  fields : List (Field σ)
  build : σ → Except String α

namespace RecordForm

variable {σ α : Type}

def field? (form : RecordForm σ α) (name : String) : Option (Field σ) :=
  form.fields.find? fun f => f.name == name

/-- A fault of a record as a whole. It lies where an attempt to close the record
comes to stand, unless that attempt has taken the closing character. -/
def faultAtClose (reason : Reason) (closer : Char) (s : List Char) : Fault :=
  match skipBlanks s with
  | [] => .before reason []
  | c :: rest => if c = closer then .before reason rest else .before reason (c :: rest)

def finish (form : RecordForm σ α) (draft : σ) (rest : List Char) : Read α :=
  match form.build draft with
  | .ok a => .ok (a, rest)
  | .error name => .error (.before (.missingField name) rest)

/-- Reads the members of a record, from a key whose quote has been read to the
closing brace. The first argument bounds the number of members. -/
def readMembers (form : RecordForm σ α) : Nat → σ → List Char → Read σ
  | 0, _, s => .error (.before .endInObject s)
  | steps + 1, draft, s =>
    match readString s with
    | .error f => .error f
    | .ok (key, rest) =>
      let after : Read σ :=
        match form.field? (String.ofList key) with
        | some field =>
          if field.isSet draft then
            .error (faultAtClose (.duplicateField field.name) '\x7d' rest)
          else
            match readColon rest with
            | .error f => .error f
            | .ok (_, rest) =>
              (field.setFrom.read rest).map fun (set, rest) => (set draft, rest)
        | none =>
          match readColon rest with
          | .error f => .error f
          | .ok (_, rest) => (skipValue rest).map fun (_, rest) => (draft, rest)
      match after with
      | .error f => .error f
      | .ok (draft, rest) =>
        match readMemberEnd rest with
        | .error f => .error f
        | .ok (false, rest) => .ok (draft, rest)
        | .ok (true, rest) => form.readMembers steps draft rest

def closeItems (s : List Char) : Read Unit :=
  match skipBlanks s with
  | [] => .error (.before .endInList [])
  | ']' :: rest => .ok ((), rest)
  | ',' :: rest =>
    match skipBlanks rest with
    | ']' :: rest => .error (.on .trailingComma (']' :: rest))
    | rest => .error (.on .trailingCharacters rest)
  | rest => .error (.on .trailingCharacters rest)

def firstRequired? : Nat → List (Field σ) → Option Nat
  | _, [] => none
  | index, f :: fields => if f.required then some index else firstRequired? (index + 1) fields

def lengthTitle (form : RecordForm σ α) : String :=
  form.title ++ " with " ++ toString form.fields.length ++ " elements"

/-- Ends an array that has no item for the given fields; it has been closed. -/
def finishShort (form : RecordForm σ α) (index : Nat) (fields : List (Field σ)) (draft : σ)
    (rest : List Char) : Read α :=
  match firstRequired? index fields with
  | none => form.finish draft rest
  | some n => .error (.before (.wrongLength n form.lengthTitle) rest)

/-- Reads the items for the given fields, of which the first has the given index. -/
def readItems (form : RecordForm σ α) : Nat → List (Field σ) → σ → List Char → Read α
  | _, [], draft, s =>
    match closeItems s with
    | .error f => .error f
    | .ok (_, rest) => form.finish draft rest
  | index, field :: fields, draft, s =>
    match (if index = 0 then readItemStart s else readItemEnd s) with
    | .error f => .error f
    | .ok (false, rest) => form.finishShort index (field :: fields) draft rest
    | .ok (true, rest) =>
      match field.setFrom.read rest with
      | .error f => .error f
      | .ok (set, rest) => form.readItems (index + 1) fields (set draft) rest

/-- Reads a record with the blanks before it. -/
def read (form : RecordForm σ α) (s : List Char) : Read α :=
  match skipBlanks s with
  | [] => .error (.before .endInValue [])
  | '[' :: rest => form.readItems 0 form.fields form.empty rest
  | '\x7b' :: rest =>
    match readMemberStart rest with
    | .error f => .error f
    | .ok (false, rest) => form.finish form.empty rest
    | .ok (true, rest) =>
      match form.readMembers (stepBound rest) form.empty rest with
      | .error f => .error f
      | .ok (draft, rest) => form.finish draft rest
  | rest => .error (wrongType form.title rest)

def ofMembers? (form : RecordForm σ α) : σ → List (String × Value) → Option σ
  | draft, [] => some draft
  | draft, (key, v) :: rest =>
    match form.field? key with
    | none => form.ofMembers? draft rest
    | some field =>
      if field.isSet draft then none
      else
        match field.setFrom.ofTree? v with
        | none => none
        | some set => form.ofMembers? (set draft) rest

def ofItems? : List (Field σ) → σ → List Value → Option σ
  | fields, draft, [] => if fields.all (fun f => !f.required) then some draft else none
  | [], _, _ :: _ => none
  | field :: fields, draft, v :: rest =>
    match field.setFrom.ofTree? v with
    | none => none
    | some set => ofItems? fields (set draft) rest

def build? (form : RecordForm σ α) (draft : σ) : Option α :=
  (form.build draft).toOption

def ofObject? (form : RecordForm σ α) : Value → Option α
  | .object members => (form.ofMembers? form.empty members).bind form.build?
  | _ => none

/-- The record that a tree holds, as an object or an array. -/
def ofTree? (form : RecordForm σ α) : Value → Option α
  | .array items => (ofItems? form.fields form.empty items).bind form.build?
  | v => form.ofObject? v

def shape (form : RecordForm σ α) : Shape α := ⟨form.read, form.ofTree?⟩

end RecordForm

end AccountPortal.Json
