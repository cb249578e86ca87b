/-!
Finite numbers of double precision, held exactly: a sign, a significand below
`2 ^ 53` and an exponent of two. Every operation computes the exact result and
rounds it once, to the nearest number and on a tie to an even significand.
-/

namespace AccountPortal.Decimal

structure Magnitude where
  significand : Nat
  exponent : Int
  deriving DecidableEq, Repr, Inhabited

/-- A finite double; zero has a sign too. -/
structure Double where
  negative : Bool
  magnitude : Magnitude
  deriving DecidableEq, Repr, Inhabited

namespace Magnitude

def leastExponent : Int := -1074

/-- Exponent of the largest numbers. -/
def greatestExponent : Int := 971

def zero : Magnitude := ⟨0, leastExponent⟩

def isZero (x : Magnitude) : Bool := x.significand == 0

def fraction (n : Nat) (e : Int) : Nat × Nat :=
  if 0 ≤ e then (n * Nat.pow 2 e.toNat, 1) else (n, Nat.pow 2 (-e).toNat)

/-- `num / den` to the nearest natural number, a tie to the even one. -/
def roundQuotient (num den : Nat) : Nat :=
  let q := num / den
  let r := num % den
  if 2 * r < den then q
  else if den < 2 * r then q + 1
  else if q % 2 = 0 then q else q + 1

/-- The exponent at which `num / den` has 53 significant bits, or the least exponent. -/
def scale (num den : Nat) : Int :=
  let e : Int := (num.log2 : Int) - (den.log2 : Int) - 53
  let (n, d) := fraction den e
  let e := if Nat.pow 2 53 * n ≤ num * d then e + 1 else e
  max e leastExponent

/-- The double nearest to `num / den`; `none` when it is too large to be finite. -/
def round? (num den : Nat) : Option Magnitude :=
  if num = 0 then some zero
  else
    let e := scale num den
    let (n, d) := fraction den e
    let m := roundQuotient (num * d) n
    let (m, e) := if m = Nat.pow 2 53 then (Nat.pow 2 52, e + 1) else (m, e)
    if greatestExponent < e then none else some ⟨m, e⟩

def mul? (x y : Magnitude) : Option Magnitude :=
  let (n, d) := fraction (x.significand * y.significand) (x.exponent + y.exponent)
  round? n d

def div? (x y : Magnitude) : Option Magnitude :=
  if y.isZero then none
  else
    let (n, d) := fraction x.significand (x.exponent - y.exponent)
    round? n (d * y.significand)

def powerOfTen? (k : Nat) : Option Magnitude :=
  round? (Nat.pow 10 k) 1

/-- `digits * 10 ^ exponent` in steps that each round: first the digits, then
the power of ten, then their product or quotient. `none` when the result is too
large. The digits are below `2 ^ 64`, so two divisions by `10 ^ 308` leave zero. -/
def scaled? (digits : Nat) (exponent : Int) : Option Magnitude := do
  let x ← round? digits 1
  if 0 ≤ exponent then
    if exponent ≤ 308 then x.mul? (← powerOfTen? exponent.toNat)
    else if x.isZero then some x
    else none
  else if -308 ≤ exponent then x.div? (← powerOfTen? (-exponent).toNat)
  else if -616 ≤ exponent then
    (← x.div? (← powerOfTen? 308)).div? (← powerOfTen? (-exponent - 308).toNat)
  else some zero

end Magnitude

namespace Double

def zero (negative : Bool) : Double := ⟨negative, Magnitude.zero⟩

/-- The signed number `digits * 10 ^ exponent`, rounded; `none` when it is too large. -/
def scaled? (negative : Bool) (digits : Nat) (exponent : Int) : Option Double :=
  (Magnitude.scaled? digits exponent).map (⟨negative, ·⟩)

end Double

end AccountPortal.Decimal
