import AccountPortal.Decimal.Shortest
import AccountPortal.Json.Value

/-!
The compact text of a value: no blanks, and in strings only the quote, the
backslash and the characters below the space are escaped.
-/

namespace AccountPortal.Json

open Decimal

def hexChar (n : Nat) : Char :=
  if n < 10 then Char.ofNat (48 + n) else Char.ofNat (87 + n)

def writeChar (c : Char) : List Char :=
  if c = '"' then ['\\', '"']
  else if c = '\\' then ['\\', '\\']
  else if c = '\x08' then ['\\', 'b']
  else if c = '\x0c' then ['\\', 'f']
  else if c = '\n' then ['\\', 'n']
  else if c = '\r' then ['\\', 'r']
  else if c = '\t' then ['\\', 't']
  else if c < ' ' then ['\\', 'u', '0', '0', hexChar (c.toNat / 16), hexChar (c.toNat % 16)]
  else [c]

def writeString (s : String) : List Char :=
  '"' :: s.toList.flatMap writeChar ++ ['"']

def Number.write : Number → List Char
  | .integer i => if i < 0 then '-' :: digits i.natAbs else digits i.natAbs
  | .double x => x.text

mutual

/-- The compact text of a value, its members in the order they have. -/
def Value.write : Value → List Char
  | .null => ['n', 'u', 'l', 'l']
  | .bool true => ['t', 'r', 'u', 'e']
  | .bool false => ['f', 'a', 'l', 's', 'e']
  | .number n => n.write
  | .string s => writeString s
  | .array items => '[' :: writeItems items ++ [']']
  | .object members => '\x7b' :: writeMembers members ++ ['\x7d']

def writeItems : List Value → List Char
  | [] => []
  | [v] => v.write
  | v :: w :: rest => v.write ++ ',' :: writeItems (w :: rest)

def writeMembers : List (String × Value) → List Char
  | [] => []
  | [(k, v)] => writeString k ++ ':' :: v.write
  | (k, v) :: m :: rest => writeString k ++ ':' :: v.write ++ ',' :: writeMembers (m :: rest)

end

/-- The compact text of a value. -/
def Value.compact (v : Value) : String :=
  String.ofList v.write

end AccountPortal.Json
