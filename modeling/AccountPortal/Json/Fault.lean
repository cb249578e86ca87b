import AccountPortal.Decimal.Shortest
import AccountPortal.Text.Blank
import AccountPortal.Text.Quoted

/-!
What can go wrong in a JSON text. A `Reason` is the cause and has one wording;
a `Fault` joins it to the part of the text still unread, and `Fault.locate`
turns that into line and column. Columns count bytes from the last line feed.
-/

namespace AccountPortal.Json

open Decimal

inductive Found where
  | null
  | bool (b : Bool)
  | integer (i : Int)
  | double (x : Double)
  | string (s : String)
  | sequence
  | map
  deriving DecidableEq, Repr

inductive Reason where
  | endInList
  | endInObject
  | endInString
  | endInValue
  | expectedColon
  | expectedListCommaOrEnd
  | expectedObjectCommaOrEnd
  | expectedWord
  | expectedValue
  | invalidEscape
  | invalidNumber
  | numberOutOfRange
  | controlCharacter
  | keyMustBeString
  | loneSurrogate
  | unpairedSurrogate
  | trailingComma
  | trailingCharacters
  | tooDeep
  | wrongType (found : Found) (expected : String)
  | wrongValue (found : Found) (expected : String)
  | wrongLength (length : Nat) (expected : String)
  | missingField (name : String)
  | duplicateField (name : String)
  | noVariant (name : String)
  deriving DecidableEq, Repr

def Found.text : Found → String
  | .null => "null"
  | .bool b => "boolean `" ++ (if b then "true" else "false") ++ "`"
  | .integer i => "integer `" ++ toString i ++ "`"
  | .double x => "floating point `" ++ String.ofList x.text ++ "`"
  | .string s => "string " ++ Text.quoted s
  | .sequence => "sequence"
  | .map => "map"

def Reason.text : Reason → String
  | .endInList => "EOF while parsing a list"
  | .endInObject => "EOF while parsing an object"
  | .endInString => "EOF while parsing a string"
  | .endInValue => "EOF while parsing a value"
  | .expectedColon => "expected `:`"
  | .expectedListCommaOrEnd => "expected `,` or `]`"
  | .expectedObjectCommaOrEnd => "expected `,` or `\x7d`"
  | .expectedWord => "expected ident"
  | .expectedValue => "expected value"
  | .invalidEscape => "invalid escape"
  | .invalidNumber => "invalid number"
  | .numberOutOfRange => "number out of range"
  | .controlCharacter => "control character (\\u0000-\\u001F) found while parsing a string"
  | .keyMustBeString => "key must be a string"
  | .loneSurrogate => "lone leading surrogate in hex escape"
  | .unpairedSurrogate => "unexpected end of hex escape"
  | .trailingComma => "trailing comma"
  | .trailingCharacters => "trailing characters"
  | .tooDeep => "recursion limit exceeded"
  | .wrongType found expected => "invalid type: " ++ found.text ++ ", expected " ++ expected
  | .wrongValue found expected => "invalid value: " ++ found.text ++ ", expected " ++ expected
  | .wrongLength n expected => "invalid length " ++ toString n ++ ", expected " ++ expected
  | .missingField name => "missing field `" ++ name ++ "`"
  | .duplicateField name => "duplicate field `" ++ name ++ "`"
  | .noVariant name => "data did not match any variant of untagged enum " ++ name

/-- A line, counted from one, and the bytes before the place on that line. -/
structure Position where
  line : Nat
  column : Nat
  deriving DecidableEq, Repr

structure Error where
  reason : Reason
  position : Option Position
  deriving DecidableEq, Repr

def Error.message (e : Error) : String :=
  match e.position with
  | none => e.reason.text
  | some p => e.reason.text ++ " at line " ++ toString p.line ++ " column " ++ toString p.column

/-- Where a fault lies: at an unread rest of which `ahead` bytes count as read,
or at a position that is already settled, if it has one at all. -/
inductive Place where
  | unread (rest : List Char) (ahead : Nat)
  | settled (position : Option Position)
  deriving DecidableEq, Repr

structure Fault where
  reason : Reason
  place : Place
  deriving DecidableEq, Repr

/-- Reading yields a result and the unread rest, or a fault. -/
abbrev Read (α : Type) := Except Fault (α × List Char)

def Fault.before (reason : Reason) (rest : List Char) : Fault :=
  ⟨reason, .unread rest 0⟩

def Fault.on (reason : Reason) (rest : List Char) : Fault :=
  ⟨reason, .unread rest 1⟩

/-- The position after the first `n` bytes of a text, counted on from `p`. The
place may lie inside a character, whose first bytes then count. -/
def Position.after (p : Position) : Nat → List Char → Position
  | _, [] => p
  | n, c :: rest =>
    if n < c.utf8Size then ⟨p.line, p.column + n⟩
    else if c = '\n' then Position.after ⟨p.line + 1, 0⟩ (n - 1) rest
    else Position.after ⟨p.line, p.column + c.utf8Size⟩ (n - c.utf8Size) rest

/-- The error that a fault in `text` stands for. No place lies beyond the end. -/
def Fault.locate (text : List Char) (f : Fault) : Error :=
  match f.place with
  | .settled p => ⟨f.reason, p⟩
  | .unread rest ahead =>
    let offset := Text.byteLength text - Text.byteLength rest + ahead
    ⟨f.reason, some (Position.after ⟨1, 0⟩ offset text)⟩

/-- The text without leading blanks: space, tab, line feed and carriage return. -/
def skipBlanks : List Char → List Char
  | c :: rest =>
    if c = ' ' ∨ c = '\n' ∨ c = '\t' ∨ c = '\r' then skipBlanks rest else c :: rest
  | [] => []

end AccountPortal.Json
