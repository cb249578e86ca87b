import AccountPortal.Json.Fault
import AccountPortal.Json.Value
import AccountPortal.Text.Hex

/-!
Readers for the parts of JSON without inner structure: words, strings and
numbers. Each has a twin that only steps over the text; the twins accept any
escape of four digits and any size of number.
-/

namespace AccountPortal.Json

open Decimal

/-- Reads the letters of `word`. -/
def readWord : List Char → List Char → Read Unit
  | [], s => .ok ((), s)
  | _ :: _, [] => .error (.before .endInValue [])
  | w :: word, c :: s => if c = w then readWord word s else .error (.on .expectedWord (c :: s))

def readNull (s : List Char) : Read Unit := readWord ['u', 'l', 'l'] s

def readTrue (s : List Char) : Read Unit := readWord ['r', 'u', 'e'] s

def readFalse (s : List Char) : Read Unit := readWord ['a', 'l', 's', 'e'] s

def hexUnit? (a b c d : Char) : Option Nat := do
  return (← Text.hexDigit? a) * 4096 + (← Text.hexDigit? b) * 256 + (← Text.hexDigit? c) * 16 +
    (← Text.hexDigit? d)

/-- Why the rest does not begin with four hexadecimal digits: the text ends, or
its next four bytes are something else. -/
def hexFault (rest : List Char) : Fault :=
  if Text.byteLength rest < 4 then .before .endInString []
  else ⟨.invalidEscape, .unread rest 4⟩

def isHighSurrogate (n : Nat) : Bool := 0xD800 ≤ n && n ≤ 0xDBFF

def isLowSurrogate (n : Nat) : Bool := 0xDC00 ≤ n && n ≤ 0xDFFF

def joinSurrogates (high low : Nat) : Char :=
  Char.ofNat ((high - 0xD800) * 0x400 + (low - 0xDC00) + 0x10000)

def shortEscape? (c : Char) : Option Char :=
  if c = '"' then some '"'
  else if c = '\\' then some '\\'
  else if c = '/' then some '/'
  else if c = 'b' then some '\x08'
  else if c = 'f' then some '\x0c'
  else if c = 'n' then some '\n'
  else if c = 'r' then some '\r'
  else if c = 't' then some '\t'
  else none

def pushChar (c : Char) : Read (List Char) → Read (List Char)
  | .ok (s, rest) => .ok (c :: s, rest)
  | .error f => .error f

/-- Reads a string up to its closing quote; the opening one has been read. A
surrogate must come as the first half of a pair. -/
def readString : List Char → Read (List Char)
  | [] => .error (.before .endInString [])
  | '"' :: rest => .ok ([], rest)
  | ['\\'] => .error (.before .endInString [])
  | '\\' :: 'u' :: rest =>
    match rest with
    | a :: b :: c :: d :: rest₁ =>
      match hexUnit? a b c d with
      | none => .error (hexFault (a :: b :: c :: d :: rest₁))
      | some n =>
        if isLowSurrogate n then .error (.before .loneSurrogate rest₁)
        else if isHighSurrogate n then
          match rest₁ with
          | [] => .error (.before .endInString [])
          | ['\\'] => .error (.before .endInString [])
          | '\\' :: 'u' :: rest₂ =>
            match rest₂ with
            | a :: b :: c :: d :: rest₃ =>
              match hexUnit? a b c d with
              | none => .error (hexFault (a :: b :: c :: d :: rest₃))
              | some m =>
                if isLowSurrogate m then pushChar (joinSurrogates n m) (readString rest₃)
                else .error (.before .loneSurrogate rest₃)
            | short => .error (hexFault short)
          | '\\' :: e :: rest₂ => .error (.on .unpairedSurrogate (e :: rest₂))
          | e :: rest₂ => .error (.on .unpairedSurrogate (e :: rest₂))
        else pushChar (Char.ofNat n) (readString rest₁)
    | short => .error (hexFault short)
  | '\\' :: e :: rest =>
    match shortEscape? e with
    | some c => pushChar c (readString rest)
    | none => .error (.on .invalidEscape (e :: rest))
  | c :: rest =>
    if c < ' ' then .error (.on .controlCharacter (c :: rest))
    else pushChar c (readString rest)

def skipString : List Char → Read Unit
  | [] => .error (.before .endInString [])
  | '"' :: rest => .ok ((), rest)
  | ['\\'] => .error (.before .endInString [])
  | '\\' :: 'u' :: rest =>
    match rest with
    | a :: b :: c :: d :: rest₁ =>
      match hexUnit? a b c d with
      | none => .error (hexFault (a :: b :: c :: d :: rest₁))
      | some _ => skipString rest₁
    | short => .error (hexFault short)
  | '\\' :: e :: rest =>
    match shortEscape? e with
    | some _ => skipString rest
    | none => .error (.on .invalidEscape (e :: rest))
  | c :: rest =>
    if c < ' ' then .error (.before .controlCharacter (c :: rest)) else skipString rest

def isDigit (c : Char) : Bool := '0' ≤ c && c ≤ '9'

def digitValue (c : Char) : Nat := c.toNat - 48

def startsWithDigit : List Char → Bool
  | c :: _ => isDigit c
  | [] => false

def numberStops (s : List Char) : Fault :=
  if s.isEmpty then .before .endInValue [] else .on .invalidNumber s

/-- Significands stay below this bound; further digits only shift the exponent. -/
def significandBound : Nat := Nat.pow 2 64

/-- Appends digits to `n` while the result stays below the bound. Yields the
number, how many digits were taken, and the rest. -/
def takeDigits : Nat → List Char → Nat × Nat × List Char
  | n, c :: rest =>
    if isDigit c ∧ n * 10 + digitValue c < significandBound then
      let (m, count, rest') := takeDigits (n * 10 + digitValue c) rest
      (m, count + 1, rest')
    else (n, 0, c :: rest)
  | n, [] => (n, 0, [])

def countDigits : List Char → Nat × List Char
  | c :: rest =>
    if isDigit c then
      let (count, rest') := countDigits rest
      (count + 1, rest')
    else (0, c :: rest)
  | [] => (0, [])

def readScaled (negative : Bool) (significand : Nat) (exponent : Int) (rest : List Char) :
    Read Number :=
  match Double.scaled? negative significand exponent with
  | some x => .ok (.double x, rest)
  | none => .error (.before .numberOutOfRange rest)

/-- Exponents above this are not added up any further. -/
def exponentLimit : Nat := Nat.pow 2 31 - 1

/-- Appends digits to an exponent. `none` stands for an exponent above the
limit, and the rest is then what follows the digit that exceeded it. -/
def takeExponent : Nat → List Char → Option Nat × List Char
  | e, c :: rest =>
    if isDigit c then
      if e * 10 + digitValue c ≤ exponentLimit then takeExponent (e * 10 + digitValue c) rest
      else (none, rest)
    else (some e, c :: rest)
  | e, [] => (some e, [])

def readExponent (negative : Bool) (significand : Nat) (start : Int) (s : List Char) :
    Read Number :=
  let (down, s) :=
    match s with
    | '+' :: rest => (false, rest)
    | '-' :: rest => (true, rest)
    | s => (false, s)
  match s with
  | [] => .error (.before .endInValue [])
  | c :: rest =>
    if isDigit c then
      match takeExponent (digitValue c) rest with
      | (some e, rest) =>
        readScaled negative significand (if down then start - e else start + e) rest
      | (none, rest) =>
        if significand ≠ 0 ∧ ¬ down then .error (.before .numberOutOfRange rest)
        else .ok (.double (.zero negative), (countDigits rest).2)
    else .error (.on .invalidNumber (c :: rest))

def readTail (negative : Bool) (significand : Nat) (exponent : Int) (s : List Char) :
    Read Number :=
  match s with
  | 'e' :: rest | 'E' :: rest => readExponent negative significand exponent rest
  | s => readScaled negative significand exponent s

def readFraction (negative : Bool) (significand : Nat) (exponent : Int) (s : List Char) :
    Read Number :=
  let (m, count, rest) := takeDigits significand s
  if startsWithDigit rest then
    readTail negative m (exponent - count) (countDigits rest).2
  else if count = 0 then .error (numberStops rest)
  else readTail negative m (exponent - count) rest

/-- An integer without fraction or exponent. Zero with a sign, and what is below
the least 64-bit integer, is a double. -/
def signedInteger (negative : Bool) (n : Nat) (rest : List Char) : Read Number :=
  if negative then
    if 0 < n ∧ n ≤ Nat.pow 2 63 then .ok (.integer (-n), rest)
    else readScaled true n 0 rest
  else .ok (.integer n, rest)

/-- Reads a number; its sign has been read. -/
def readNumber (negative : Bool) : List Char → Read Number
  | [] => .error (.before .endInValue [])
  | c :: rest =>
    if c = '0' ∧ startsWithDigit rest then .error (.on .invalidNumber rest)
    else if isDigit c then
      let (n, _, rest) := takeDigits (digitValue c) rest
      let (dropped, rest) := countDigits rest
      match rest with
      | '.' :: rest => readFraction negative n dropped rest
      | 'e' :: rest | 'E' :: rest => readExponent negative n dropped rest
      | rest =>
        if dropped = 0 then signedInteger negative n rest
        else readScaled negative n dropped rest
    else .error (.on .invalidNumber (c :: rest))

def skipExponent (s : List Char) : Read Unit :=
  let s :=
    match s with
    | '+' :: rest | '-' :: rest => rest
    | s => s
  match s with
  | [] => .error (.before .invalidNumber [])
  | c :: rest =>
    if isDigit c then .ok ((), (countDigits rest).2) else .error (.on .invalidNumber (c :: rest))

def skipNumber : List Char → Read Unit
  | [] => .error (.before .invalidNumber [])
  | c :: rest =>
    if c = '0' ∧ startsWithDigit rest then .error (.on .invalidNumber rest)
    else if isDigit c then
      match (if c = '0' then rest else (countDigits rest).2) with
      | '.' :: rest =>
        let (count, rest) := countDigits rest
        if count = 0 then
          .error (.on .invalidNumber rest)
        else
          match rest with
          | 'e' :: rest | 'E' :: rest => skipExponent rest
          | rest => .ok ((), rest)
      | 'e' :: rest | 'E' :: rest => skipExponent rest
      | rest => .ok ((), rest)
    else .error (.on .invalidNumber (c :: rest))

end AccountPortal.Json
