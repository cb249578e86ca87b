import AccountPortal.Host.Unsigned
import AccountPortal.Text.Hex

/-!
Internet addresses and their standard text. Of an address of eight groups the
text leaves out the longest run of at least two zero groups, the first one if
there are several; an address that embeds one of four bytes ends in that one's
text. Reading accepts every run of zeros, and four bytes in place of the last
two groups.
-/

namespace AccountPortal.Host

inductive Address where
  | v4 (a b c d : UInt8)
  | v6 (groups : { l : List UInt16 // l.length = 8 })
  deriving DecidableEq, Repr

namespace Address

def decimal (n : Nat) : List Char := Nat.toDigits 10 n

def writeBytes (a b c d : UInt8) : List Char :=
  decimal a.toNat ++ '.' :: decimal b.toNat ++ '.' :: decimal c.toNat ++ '.' :: decimal d.toNat

def writeGroups : List UInt16 → List Char
  | [] => []
  | [g] => Text.hexDigits g.toNat
  | g :: h :: rest => Text.hexDigits g.toNat ++ ':' :: writeGroups (h :: rest)

def zerosAhead : List UInt16 → Nat
  | [] => 0
  | g :: rest => if g = 0 then zerosAhead rest + 1 else 0

/-- Start and length of the longest run of zeros, the first of equals. -/
def longestZeros : List UInt16 → Nat × Nat
  | [] => (0, 0)
  | g :: rest =>
    let (start, length) := longestZeros rest
    let here := zerosAhead (g :: rest)
    if length ≤ here then (0, here) else (start + 1, length)

def bytesOf (g : UInt16) : UInt8 × UInt8 := ((g >>> 8).toUInt8, g.toUInt8)

/-- The standard text of an address. -/
def write : Address → List Char
  | .v4 a b c d => writeBytes a b c d
  | .v6 ⟨groups, _⟩ =>
    match groups with
    | [0, 0, 0, 0, 0, 0xFFFF, g, h] =>
      "::ffff:".toList ++ writeBytes (bytesOf g).1 (bytesOf g).2 (bytesOf h).1 (bytesOf h).2
    | groups =>
      let (start, length) := longestZeros groups
      if 1 < length then
        writeGroups (groups.take start) ++ ':' :: ':' :: writeGroups (groups.drop (start + length))
      else writeGroups groups

def text (a : Address) : String := String.ofList a.write

def takeDigits (digit? : Char → Option Nat) : List Char → List Nat × List Char
  | [] => ([], [])
  | c :: rest =>
    match digit? c with
    | some d =>
      let (ds, rest') := takeDigits digit? rest
      (d :: ds, rest')
    | none => ([], c :: rest)

def valueOf (radix : Nat) (ds : List Nat) : Nat :=
  ds.foldl (fun n d => n * radix + d) 0

/-- Reads a byte in decimal, without leading zeros. -/
def readByte (s : List Char) : Option (UInt8 × List Char) :=
  let (ds, rest) := takeDigits Unsigned.digit? s
  if ds.isEmpty ∨ 3 < ds.length ∨ (ds.head? = some 0 ∧ 1 < ds.length) ∨ 255 < valueOf 10 ds then
    none
  else some (UInt8.ofNat (valueOf 10 ds), rest)

/-- Reads a group of at most four hexadecimal digits. -/
def readGroup (s : List Char) : Option (UInt16 × List Char) :=
  let (ds, rest) := takeDigits Text.hexDigit? s
  if ds.isEmpty ∨ 4 < ds.length then none else some (UInt16.ofNat (valueOf 16 ds), rest)

def readChar (c : Char) : List Char → Option (List Char)
  | d :: rest => if d = c then some rest else none
  | [] => none

def readBytes (s : List Char) : Option ((UInt8 × UInt8 × UInt8 × UInt8) × List Char) := do
  let (a, s) ← readByte s
  let (b, s) ← readByte (← readChar '.' s)
  let (c, s) ← readByte (← readChar '.' s)
  let (d, s) ← readByte (← readChar '.' s)
  return ((a, b, c, d), s)

def groupOf (high low : UInt8) : UInt16 := (high.toUInt16 <<< 8) ||| low.toUInt16

/-- Reads up to `limit` groups; a colon stands before each but the first. The
last two may be four bytes, which is reported and ends the reading. -/
def readGroups : (limit : Nat) → (first : Bool) → List Char → List UInt16 × Bool × List Char
  | 0, _, s => ([], false, s)
  | limit + 1, first, s =>
    match (if first then some s else readChar ':' s) with
    | none => ([], false, s)
    | some inner =>
      match (if 1 ≤ limit then readBytes inner else none) with
      | some ((a, b, c, d), rest) => ([groupOf a b, groupOf c d], true, rest)
      | none =>
        match readGroup inner with
        | none => ([], false, s)
        | some (g, rest) =>
          let (gs, bytes, rest) := readGroups limit false rest
          (g :: gs, bytes, rest)

def ofGroups? (groups : List UInt16) : Option Address :=
  if h : groups.length = 8 then some (.v6 ⟨groups, h⟩) else none

/-- Reads eight groups, or fewer around a double colon that stands for at least one. -/
def readV6 (s : List Char) : Option (Address × List Char) :=
  let (head, bytes, rest) := readGroups 8 true s
  if head.length = 8 then (ofGroups? head).map (·, rest)
  else if bytes then none
  else do
    let rest ← readChar ':' (← readChar ':' rest)
    let (tail, _, rest) := readGroups (7 - head.length) true rest
    let zeros := List.replicate (8 - head.length - tail.length) 0
    (ofGroups? (head ++ zeros ++ tail)).map (·, rest)

def read (s : List Char) : Option (Address × List Char) :=
  match readBytes s with
  | some ((a, b, c, d), rest) => some (.v4 a b c d, rest)
  | none => readV6 s

/-- The address that the whole text spells. -/
def parse? (s : List Char) : Option Address :=
  match read s with
  | some (a, []) => some a
  | _ => none

def withPort (a : Address) (port : UInt16) : String :=
  let port := ':' :: decimal port.toNat
  match a with
  | .v4 .. => String.ofList (a.write ++ port)
  | .v6 _ => String.ofList ('[' :: a.write ++ ']' :: port)

/-- Reads a number below `bound`, with leading zeros but without a sign. -/
def readNumber (bound : Nat) (s : List Char) : Option (Nat × List Char) :=
  let (ds, rest) := takeDigits Unsigned.digit? s
  if ds.isEmpty ∨ bound ≤ valueOf 10 ds then none else some (valueOf 10 ds, rest)

def isPort (s : List Char) : Bool :=
  match (readChar ':' s).bind (readNumber 65536) with
  | some (_, []) => true
  | _ => false

/-- Steps over a zone, a percent sign and a number, if there is one. -/
def skipZone (s : List Char) : List Char :=
  match (readChar '%' s).bind (readNumber (Nat.pow 2 32)) with
  | some (_, rest) => rest
  | none => s

/-- Whether a text is an address with a port; eight groups are bracketed and may have a zone. -/
def isWithPort (s : List Char) : Bool :=
  match readBytes s with
  | some (_, rest) => isPort rest
  | none =>
    match (readChar '[' s).bind readV6 with
    | some (_, rest) =>
      match readChar ']' (skipZone rest) with
      | some rest => isPort rest
      | none => false
    | none => false

end Address

end AccountPortal.Host
