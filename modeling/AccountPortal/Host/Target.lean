import AccountPortal.Text.Blank
import AccountPortal.Text.Pieces

/-!
The target of a request line: a path with an optional query, an absolute
address, a bare authority, or an asterisk. Only the path matters to the site.
-/

namespace AccountPortal.Host.Target

inductive Error where
  | method
  | empty
  | tooLong
  | character
  | authority
  | format
  | schemeTooLong
  | headerValue
  deriving DecidableEq, Repr

def Error.message : Error → String
  | .method => "invalid HTTP method"
  | .empty => "empty string"
  | .tooLong => "uri too long"
  | .character => "invalid uri character"
  | .authority => "invalid authority"
  | .format => "invalid format"
  | .schemeTooLong => "scheme too long"
  | .headerValue => "failed to parse header value"

def isAlphanumeric (c : Char) : Bool :=
  ('0' ≤ c && c ≤ '9') || ('a' ≤ c && c ≤ 'z') || ('A' ≤ c && c ≤ 'Z')

/-- Characters of a method and of other tokens. -/
def isTokenChar (c : Char) : Bool :=
  isAlphanumeric c || "!#$%&'*+-.^_`|~".toList.contains c

def isPathChar (c : Char) : Bool :=
  let n := c.toNat
  n == 0x21 || (0x24 ≤ n && n ≤ 0x3B) || n == 0x3D || (0x40 ≤ n && n ≤ 0x5F) ||
    (0x61 ≤ n && n ≤ 0x7A) || n == 0x7C || n == 0x7E || c == '"' || c == '\x7b' || c == '\x7d' ||
    0x80 ≤ n

def isQueryChar (c : Char) : Bool :=
  let n := c.toNat
  n == 0x21 || (0x24 ≤ n && n ≤ 0x3B) || n == 0x3D || (0x3F ≤ n && n ≤ 0x7E) || 0x80 ≤ n

def isSchemeChar (c : Char) : Bool :=
  isAlphanumeric c || c == '+' || c == '-' || c == '.' || c == '~'

def isAuthorityChar (c : Char) : Bool :=
  isAlphanumeric c || "!$&'()*+,-.:;=@[]_~".toList.contains c

/-- Checks a query up to a fragment, which does not count. -/
def checkQuery : List Char → Except Error Unit
  | [] => .ok ()
  | c :: rest =>
    if c = '#' then .ok ()
    else if isQueryChar c then checkQuery rest
    else .error .character

def takePath : List Char → Except Error (List Char)
  | [] => .ok []
  | c :: rest =>
    if c = '?' then (checkQuery rest).map fun _ => []
    else if c = '#' then .ok []
    else if isPathChar c then (takePath rest).map (c :: ·)
    else .error .character

/-- The path of a target that may leave it empty: then it is the root. -/
def pathOrRoot (s : List Char) : Except Error (List Char) := do
  match ← takePath s with
  | [] => return ['/']
  | path => return path

structure AuthorityScan where
  colons : Nat := 0
  opened : Bool := false
  closed : Bool := false
  percent : Bool := false
  /-- The authority ends just after an `@`. -/
  atEnd : Bool := false

/-- Takes in one character of an authority. Colons and percent signs in front of
an `@`, and colons within brackets, do not count. -/
def AuthorityScan.take (scan : AuthorityScan) (c : Char) : Except Error AuthorityScan :=
  if c = ':' then
    if 8 ≤ scan.colons then .error .authority
    else .ok { scan with colons := scan.colons + 1, atEnd := false }
  else if c = '[' then
    if scan.percent ∨ scan.opened then .error .authority
    else .ok { scan with opened := true, atEnd := false }
  else if c = ']' then
    if ¬ scan.opened ∨ scan.closed then .error .authority
    else .ok { scan with closed := true, colons := 0, percent := false, atEnd := false }
  else if c = '@' then
    .ok { scan with colons := 0, percent := false, atEnd := true }
  else if c = '%' then .ok { scan with percent := true, atEnd := false }
  else if isAuthorityChar c then .ok { scan with atEnd := false }
  else .error .character

def endsAuthority (c : Char) : Bool := c = '/' || c = '?' || c = '#'

/-- Checks an authority and yields what follows it. -/
def takeAuthority : AuthorityScan → List Char → Except Error (List Char)
  | scan, [] => finish scan []
  | scan, c :: rest =>
    if endsAuthority c then finish scan (c :: rest)
    else do takeAuthority (← scan.take c) rest
where
  finish (scan : AuthorityScan) (rest : List Char) : Except Error (List Char) :=
    if scan.opened ≠ scan.closed ∨ 1 < scan.colons ∨ scan.atEnd ∨ scan.percent then
      .error .authority
    else .ok rest

def schemeLimit : Nat := 64

def lengthLimit : Nat := 65534

/-- What follows the scheme and its two slashes, if there is a scheme. It may be
empty, but then something has to follow. -/
def takeScheme? (s : List Char) : Except Error (Option (List Char)) :=
  let name := s.takeWhile isSchemeChar
  match s.drop name.length with
  | ':' :: '/' :: '/' :: rest =>
    if name.isEmpty ∧ rest.isEmpty then .ok none
    else if schemeLimit < name.length then .error .schemeTooLong
    else .ok (some rest)
  | _ => .ok none

/-- The path of a target. A bare authority has none. -/
def path (target : String) : Except Error (List Char) := do
  let s := target.toList
  if lengthLimit < Text.byteLength s then throw .tooLong
  match s with
  | [] => throw .empty
  | ['*'] => return ['*']
  | '/' :: _ => takePath s
  | [c] =>
    if (← takeAuthority {} [c]).isEmpty then return [] else throw .character
  | s =>
    match ← takeScheme? s with
    | some rest =>
      if rest.isEmpty then throw .empty
      let after ← takeAuthority {} rest
      if after.length = rest.length then throw .format
      pathOrRoot after
    | none =>
      let after ← takeAuthority {} s
      if after.isEmpty then return [] else throw .format

def isMethod (s : String) : Bool := s ≠ "" && s.toList.all isTokenChar

/-- Whether a text may stand as the value of a header: it has no controls but tabs. -/
def isHeaderValue (s : String) : Bool :=
  s.toList.all fun c => (0x20 ≤ c.toNat && c.toNat ≠ 0x7F) || c == '\t'

end AccountPortal.Host.Target
