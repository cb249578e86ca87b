import AccountPortal.Text.Pieces

/-!
The path of the page address that a router sees. The address is resolved
against the root of a site: it may be absolute or relative, a host in it is
dropped, query and fragment are cut off, and dot segments are worked out. In the
schemes of the web and of files a backslash counts as a slash; in any other
scheme it is a character like the rest.
-/

namespace AccountPortal.Page.Location

open Text

/-- Blanks and controls around an address do not count. -/
def isEdge (c : Char) : Bool := c.toNat ≤ 0x20

/-- Line breaks and tabs anywhere in an address do not count. -/
def isBreak (c : Char) : Bool := c = '\t' || c = '\n' || c = '\r'

def clean (s : List Char) : List Char :=
  (((s.dropWhile isEdge).reverse.dropWhile isEdge).reverse).filter fun c => !isBreak c

def isLetter (c : Char) : Bool := ('a' ≤ c && c ≤ 'z') || ('A' ≤ c && c ≤ 'Z')

def isSchemeChar (c : Char) : Bool :=
  isLetter c || ('0' ≤ c && c ≤ '9') || c = '+' || c = '-' || c = '.'

def scheme? (s : List Char) : Option (List Char × List Char) :=
  match cut? ':' s with
  | some (c :: name, rest) =>
    if isLetter c && name.all isSchemeChar then some ((c :: name).map lowerAscii, rest) else none
  | _ => none

/-- What comes before the query and the fragment. -/
def beforeQuery (s : List Char) : List Char :=
  s.takeWhile fun c => c ≠ '?' && c ≠ '#'

def slashed (s : List Char) : List Char :=
  s.map fun c => if c = '\\' then '/' else c

def isDot (s : List Char) : Bool :=
  s == ['.'] || s.map lowerAscii == ['%', '2', 'e']

def isDoubleDot (s : List Char) : Bool :=
  (s.head? == some '.' && isDot s.tail) || (isDot (s.take 3) && isDot (s.drop 3))

/-- Whether a segment names a drive: a letter and a colon or a bar, with nothing
or a backslash after them. -/
def namesDrive : List Char → Bool
  | letter :: mark :: rest =>
    isLetter letter && (mark = ':' || mark = '|') && (rest.isEmpty || rest.head? = some '\\')
  | _ => false

def stepUp : List (List Char) → List (List Char)
  | [] => []
  | s :: done => if namesDrive s then s :: done else done

/-- Works out dot segments. `done` holds the segments kept so far, the last one
first. A dot segment at the end leaves an empty segment behind it. -/
def resolve : List (List Char) → List (List Char) → List (List Char)
  | done, [] => done.reverse
  | done, s :: rest =>
    if isDoubleDot s then resolve (if rest.isEmpty then [] :: stepUp done else stepUp done) rest
    else if isDot s then resolve (if rest.isEmpty then [] :: done else done) rest
    else resolve (s :: done) rest

def joinSegments (segments : List (List Char)) : List Char :=
  segments.flatMap ('/' :: ·)

def rooted (s : List Char) : List Char :=
  joinSegments (resolve [] (pieces '/' (if s.head? = some '/' then s.tail else s)))

def afterHost (s : List Char) : List Char :=
  rooted (s.dropWhile (· ≠ '/'))

def relative : List Char → List Char
  | '/' :: '/' :: rest => afterHost (rest.dropWhile (· = '/'))
  | s => rooted s

/-- The path of a file. Two slashes announce a host, unless a drive follows, and
a path never begins with more than one slash. -/
def ofFile (s : List Char) : List Char :=
  let inner :=
    match s with
    | '/' :: '/' :: rest =>
      if namesDrive (rest.takeWhile (· ≠ '/')) then rest else rest.dropWhile (· ≠ '/')
    | s => s
  '/' :: (rooted inner).dropWhile (· = '/')

/-- The path behind an authority in a scheme with plain backslashes: it begins
at the first slash, or at a backslash that ends the port. -/
def afterAuthority (s : List Char) : List Char :=
  let host := ((pieces '@' (s.takeWhile (· ≠ '/'))).getLast?).getD []
  match host.dropWhile (· ≠ '\\') ++ s.dropWhile (· ≠ '/') with
  | [] => []
  | path => rooted path

/-- The path in a scheme of no special kind. Only such an address can have an
empty path, or one without a slash at its beginning. -/
def ofOther : List Char → List Char
  | '/' :: '/' :: rest => afterAuthority rest
  | '/' :: rest => rooted rest
  | rest => rest

def needsHost (scheme : List Char) : Bool :=
  ["http", "ws", "wss", "ftp"].any (·.toList == scheme)

/-- The path of an address, from the root of the site. -/
def path (address : String) : List Char :=
  let s := beforeQuery (clean address.toList)
  match scheme? s with
  | none => relative (slashed s)
  | some (scheme, rest) =>
    if scheme = "https".toList then relative (slashed rest)
    else if needsHost scheme then afterHost ((slashed rest).dropWhile (· = '/'))
    else if scheme = "file".toList then ofFile (slashed rest)
    else ofOther rest

/-- Whether a link leads to the page at the path or to one above it. -/
def isCurrent (href : String) (path : List Char) : Bool :=
  (pieces '/' href.toList).isPrefixOf (pieces '/' path)

end AccountPortal.Page.Location
