import AccountPortal.Decimal.Double

/-!
The shortest decimal text of a double. Among the decimals that round to the
number, `shortest` takes those on the coarsest grid `10 ^ k`, and of these the
nearest one. `layout` then places the point: positional notation for numbers
from `10 ^ -5` up to `10 ^ 16`, an exponent outside that range.
-/

namespace AccountPortal.Decimal

/-- The real numbers that round to a magnitude, as `low / den` and `high / den`
around `mid / den`. The ends belong to them when the significand is even. -/
structure Rounding where
  low : Nat
  mid : Nat
  high : Nat
  den : Nat
  closed : Bool
  deriving Repr

/-- The numbers that round to `x`. Below a power of two the neighbours are half
as far apart as above it. -/
def Magnitude.rounding (x : Magnitude) : Rounding :=
  let below := if x.significand = Nat.pow 2 52 ∧ x.exponent ≠ leastExponent then 1 else 2
  let (unit, den) := fraction 1 (x.exponent - 2)
  { low := (4 * x.significand - below) * unit
    mid := 4 * x.significand * unit
    high := (4 * x.significand + 2) * unit
    den := den
    closed := x.significand % 2 == 0 }

def Rounding.contains (r : Rounding) (n d : Nat) : Bool :=
  if r.closed then r.low * d ≤ n * r.den && n * r.den ≤ r.high * d
  else r.low * d < n * r.den && n * r.den < r.high * d

/-- The multiple of `10 ^ k` nearest to the number among those that round to it.
Only the two multiples around the number need to be tried. -/
def Rounding.onGrid? (r : Rounding) (k : Int) : Option Nat :=
  let (up, down) := if 0 ≤ k then (Nat.pow 10 k.toNat, 1) else (1, Nat.pow 10 (-k).toNat)
  let under := r.mid * down / (r.den * up)
  let rest := r.mid * down % (r.den * up)
  let fits (c : Nat) : Bool := r.contains (c * up) down
  if fits under && under ≠ 0 then
    if fits (under + 1) then
      if 2 * rest < r.den * up then some under
      else if r.den * up < 2 * rest then some (under + 1)
      else if under % 2 = 0 then some under
      else some (under + 1)
    else some under
  else if fits (under + 1) then some (under + 1)
  else none

def Rounding.search (r : Rounding) : Nat → Int → Nat × Int
  | 0, k => (0, k)
  | steps + 1, k =>
    match r.onGrid? k with
    | some c => (c, k)
    | none => r.search steps (k - 1)

/-- Digits and power of ten of the shortest decimal that reads back as `x`.
Grids from `10 ^ 309` down to `10 ^ -330` cover every double. -/
def Magnitude.shortest (x : Magnitude) : Nat × Int :=
  x.rounding.search 640 309

def digits (n : Nat) : List Char :=
  Nat.toDigits 10 n

def layout (ds : List Char) (k : Int) : List Char :=
  let point : Int := ds.length + k
  if 0 ≤ k ∧ point ≤ 16 then ds ++ List.replicate k.toNat '0' ++ ['.', '0']
  else if 0 < point ∧ point ≤ 16 then ds.take point.toNat ++ '.' :: ds.drop point.toNat
  else if -5 < point ∧ point ≤ 0 then
    ['0', '.'] ++ List.replicate (-point).toNat '0' ++ ds
  else
    let mantissa :=
      match ds with
      | d :: rest => if rest.isEmpty then [d] else d :: '.' :: rest
      | [] => []
    let e := point - 1
    mantissa ++ 'e' :: (if 0 ≤ e then '+' else '-') :: digits e.natAbs

def Double.text (x : Double) : List Char :=
  let body :=
    if x.magnitude.isZero then ['0', '.', '0']
    else
      let (c, k) := x.magnitude.shortest
      layout (digits c) k
  if x.negative then '-' :: body else body

end AccountPortal.Decimal
