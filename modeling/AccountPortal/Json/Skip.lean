import AccountPortal.Json.Scalar

/-!
Stepping over a value whose content does not matter. Only its syntax is
checked, at any depth of nesting. The first argument of the functions bounds
their steps; `skipValue` supplies a bound that no text exceeds.
-/

namespace AccountPortal.Json

/-- A bound on the steps that reading a text can take: two for each character. -/
def stepBound (s : List Char) : Nat := 2 * s.length + 2

mutual

/-- Steps over one value and the blanks before it. -/
def skipValueIn : Nat → List Char → Read Unit
  | 0, s => .error (.before .endInValue s)
  | steps + 1, s =>
    match skipBlanks s with
    | [] => .error (.before .endInValue [])
    | 'n' :: rest => readNull rest
    | 't' :: rest => readTrue rest
    | 'f' :: rest => readFalse rest
    | '-' :: rest => skipNumber rest
    | '"' :: rest => skipString rest
    | '[' :: rest =>
      match skipBlanks rest with
      | [] => .error (.before .endInList [])
      | ']' :: rest => .ok ((), rest)
      | rest => skipItemsIn steps rest
    | '\x7b' :: rest =>
      match skipBlanks rest with
      | [] => .error (.before .endInObject [])
      | '\x7d' :: rest => .ok ((), rest)
      | rest => skipMembersIn steps rest
    | c :: rest =>
      if isDigit c then skipNumber (c :: rest) else .error (.on .expectedValue (c :: rest))

def skipItemsIn : Nat → List Char → Read Unit
  | 0, s => .error (.before .endInList s)
  | steps + 1, s =>
    match skipValueIn steps s with
    | .error f => .error f
    | .ok (_, rest) =>
      match skipBlanks rest with
      | [] => .error (.before .endInList [])
      | ',' :: rest => skipItemsIn steps rest
      | ']' :: rest => .ok ((), rest)
      | rest => .error (.on .expectedListCommaOrEnd rest)

def skipMembersIn : Nat → List Char → Read Unit
  | 0, s => .error (.before .endInObject s)
  | steps + 1, s =>
    match skipBlanks s with
    | [] => .error (.before .endInObject [])
    | '"' :: rest =>
      match skipString rest with
      | .error f => .error f
      | .ok (_, rest) =>
        match skipBlanks rest with
        | [] => .error (.before .endInObject [])
        | ':' :: rest =>
          match skipValueIn steps rest with
          | .error f => .error f
          | .ok (_, rest) =>
            match skipBlanks rest with
            | [] => .error (.before .endInObject [])
            | ',' :: rest => skipMembersIn steps rest
            | '\x7d' :: rest => .ok ((), rest)
            | rest => .error (.on .expectedObjectCommaOrEnd rest)
        | rest => .error (.on .expectedColon rest)
    | rest => .error (.on .keyMustBeString rest)

end

def skipValue (s : List Char) : Read Unit :=
  skipValueIn (stepBound s) s

end AccountPortal.Json
