import AccountPortal.Text.Blank
import AccountPortal.Text.Hex
import AccountPortal.Text.Pieces

/-!
Looking for a file of the bundle. The rest of a path is decoded and cut into
names, which are appended to the directory of the bundle. That directory holds
no files here, so the only question is how the search fails.
-/

namespace AccountPortal.Host.Bundle

inductive Failure where
  /-- The path leaves the directory, or there is no such file. -/
  | missing
  /-- A name holds the null character, so no file can have it. -/
  | nullName
  /-- The path has more bytes than a path may have. -/
  | tooLong
  deriving DecidableEq, Repr

def hexByte? (high low : Char) : Option UInt8 := do
  return UInt8.ofNat ((← Text.hexDigit? high) * 16 + (← Text.hexDigit? low))

/-- The bytes of a text. A percent sign and two digits stand for one byte; any
other percent sign stands for itself. -/
def bytesOf : List Char → List UInt8
  | '%' :: high :: low :: rest =>
    match hexByte? high low with
    | some byte => byte :: bytesOf rest
    | none => String.utf8EncodeChar '%' ++ bytesOf (high :: low :: rest)
  | c :: rest => String.utf8EncodeChar c ++ bytesOf rest
  | [] => []

def decode? (s : List Char) : Option (List Char) :=
  (String.fromUTF8? ⟨(bytesOf s).toArray⟩).map String.toList

/-- The names in a path. Empty names and single dots do not count; a path from
the root and a step upwards lead nowhere. -/
def names? (path : List Char) : Option (List (List Char)) :=
  let names := Text.pieces '/' path
  if path.head? = some '/' ∨ ['.', '.'] ∈ names then none
  else some (names.filter fun name => !name.isEmpty && name ≠ ['.'])

def directory (siteRoot : List Char) : List Char :=
  if siteRoot.isEmpty ∨ siteRoot.getLast? = some '/' then siteRoot ++ "pkg".toList
  else siteRoot ++ "/pkg".toList

def lengthBound : Nat := 4096

/-- How the search fails for what follows the name of the bundle in a path. -/
def search (siteRoot path : List Char) : Failure :=
  match (decode? (path.dropWhile (· = '/'))).bind names? with
  | none => .missing
  | some names =>
    if names.any (·.contains '\x00') then .nullName
    else if lengthBound ≤ Text.byteLength (directory siteRoot ++ names.flatMap ('/' :: ·)) then
      .tooLong
    else .missing

end AccountPortal.Host.Bundle
