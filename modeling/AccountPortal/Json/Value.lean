import AccountPortal.Decimal.Double

/-!
JSON values. An object keeps its members in the order of its text, repetitions
included; `Value.normal` orders them by key and keeps the last of equal keys,
which is how a free-form value counts.
-/

namespace AccountPortal.Json

open Decimal

/-- A number without fraction or exponent stays an integer where 64 bits hold it. -/
inductive Number where
  | integer (i : Int)
  | double (x : Double)
  deriving DecidableEq, Repr, Inhabited

inductive Value where
  | null
  | bool (b : Bool)
  | number (n : Number)
  | string (s : String)
  | array (items : List Value)
  | object (members : List (String × Value))
  deriving Repr, Inhabited

namespace Value

/-- Puts a member at its place in a list ordered by key, over one of the same key. -/
def insertMember (key : String) (v : Value) : List (String × Value) → List (String × Value)
  | [] => [(key, v)]
  | (k, w) :: rest =>
    if key < k then (key, v) :: (k, w) :: rest
    else if key = k then (key, v) :: rest
    else (k, w) :: insertMember key v rest

/-- Members ordered by key; of equal keys the last one counts. -/
def sortMembers (members : List (String × Value)) : List (String × Value) :=
  members.foldl (fun done (k, v) => insertMember k v done) []

mutual

def normal : Value → Value
  | .array items => .array (normalItems items)
  | .object members => .object (sortMembers (normalMembers members))
  | v => v

def normalItems : List Value → List Value
  | [] => []
  | v :: rest => normal v :: normalItems rest

def normalMembers : List (String × Value) → List (String × Value)
  | [] => []
  | (k, v) :: rest => (k, normal v) :: normalMembers rest

end

/-- The value of the last member named `key`. -/
def lastMember? (key : String) : List (String × Value) → Option Value
  | [] => none
  | (k, v) :: rest =>
    match lastMember? key rest with
    | some w => some w
    | none => if k = key then some v else none

def text? : Value → Option String
  | .string s => some s
  | _ => none

end Value

end AccountPortal.Json
