/-!
Unsigned decimal numbers with a bound. An optional plus sign and leading zeros
are allowed.
-/

namespace AccountPortal.Host.Unsigned

inductive Fault where
  | empty
  | invalidDigit
  | tooLarge
  deriving DecidableEq, Repr

def Fault.message : Fault → String
  | .empty => "cannot parse integer from empty string"
  | .invalidDigit => "invalid digit found in string"
  | .tooLarge => "number too large to fit in target type"

def digit? (c : Char) : Option Nat :=
  if '0' ≤ c ∧ c ≤ '9' then some (c.toNat - 48) else none

/-- Appends digits to `n`. The first fault from the left is reported. -/
def appendDigits (bound : Nat) : Nat → List Char → Except Fault Nat
  | n, [] => .ok n
  | n, c :: rest =>
    match digit? c with
    | none => .error .invalidDigit
    | some d => if n * 10 + d < bound then appendDigits bound (n * 10 + d) rest else .error .tooLarge

def parse (bound : Nat) : List Char → Except Fault Nat
  | [] => .error .empty
  | ['+'] => .error .invalidDigit
  | '+' :: rest => appendDigits bound 0 rest
  | s => appendDigits bound 0 s

end AccountPortal.Host.Unsigned
