import AccountPortal.Json.Skip

/-!
Reading a whole value. `readTree` keeps every member of an object as it stands.
`parse` reads a free-form text: of equal keys the last member counts, and an
object whose first key is `embeddedKey` stands for the value in the JSON text
that its only member holds.
-/

namespace AccountPortal.Json

/-- How many arrays and objects may be open at once. -/
def depthLimit : Nat := 127

/-- The first key of an object that holds a value as a JSON text of its own. -/
def embeddedKey : String := "$serde_json::private::RawValue"

def foundNumber (negative : Bool) (s : List Char) : Read Found :=
  match readNumber negative s with
  | .error f => .error f
  | .ok (.integer i, rest) => .ok (.integer i, rest)
  | .ok (.double x, rest) => .ok (.double x, rest)

/-- Reads what stands at the next character where something else was expected.
Arrays and objects are not entered. -/
def readFound : List Char → Read Found
  | [] => .error (.on .expectedValue [])
  | 'n' :: rest => (readNull rest).map fun (_, rest) => (.null, rest)
  | 't' :: rest => (readTrue rest).map fun (_, rest) => (.bool true, rest)
  | 'f' :: rest => (readFalse rest).map fun (_, rest) => (.bool false, rest)
  | '-' :: rest => foundNumber true rest
  | '"' :: rest => (readString rest).map fun (s, rest) => (.string (String.ofList s), rest)
  | '[' :: rest => .ok (.sequence, '[' :: rest)
  | '\x7b' :: rest => .ok (.map, '\x7b' :: rest)
  | c :: rest =>
    if isDigit c then foundNumber false (c :: rest) else .error (.on .expectedValue (c :: rest))

def wrongType (expected : String) (s : List Char) : Fault :=
  match readFound s with
  | .error f => f
  | .ok (found, rest) => .before (.wrongType found expected) rest

def readColon (s : List Char) : Read Unit :=
  match skipBlanks s with
  | [] => .error (.before .endInObject [])
  | ':' :: rest => .ok ((), rest)
  | rest => .error (.on .expectedColon rest)

/-- Reads the comma after a member and the quote of the next key, or the closing
brace. Yields whether another member follows. -/
def readMemberEnd (s : List Char) : Read Bool :=
  match skipBlanks s with
  | [] => .error (.before .endInObject [])
  | '\x7d' :: rest => .ok (false, rest)
  | ',' :: rest =>
    match skipBlanks rest with
    | [] => .error (.before .endInValue [])
    | '"' :: rest => .ok (true, rest)
    | '\x7d' :: rest => .error (.on .trailingComma ('\x7d' :: rest))
    | rest => .error (.on .keyMustBeString rest)
  | rest => .error (.on .expectedObjectCommaOrEnd rest)

def readMemberStart (s : List Char) : Read Bool :=
  match skipBlanks s with
  | [] => .error (.before .endInObject [])
  | '\x7d' :: rest => .ok (false, rest)
  | '"' :: rest => .ok (true, rest)
  | rest => .error (.on .keyMustBeString rest)

def readItemEnd (s : List Char) : Read Bool :=
  match skipBlanks s with
  | [] => .error (.before .endInList [])
  | ']' :: rest => .ok (false, rest)
  | ',' :: rest =>
    match skipBlanks rest with
    | [] => .error (.before .endInValue [])
    | ']' :: rest => .error (.on .trailingComma (']' :: rest))
    | rest => .ok (true, rest)
  | rest => .error (.on .expectedListCommaOrEnd rest)

def readItemStart (s : List Char) : Read Bool :=
  match skipBlanks s with
  | [] => .error (.before .endInList [])
  | ']' :: rest => .ok (false, rest)
  | rest => .ok (true, rest)

def readEnd (s : List Char) : Except Fault Unit :=
  match skipBlanks s with
  | [] => .ok ()
  | rest => .error (.on .trailingCharacters rest)

def closeObject (s : List Char) : Read Unit :=
  match skipBlanks s with
  | [] => .error (.before .endInObject [])
  | '\x7d' :: rest => .ok ((), rest)
  | ',' :: rest => .error (.on .trailingComma (',' :: rest))
  | rest => .error (.on .trailingCharacters rest)

def readText (expected : String) (s : List Char) : Read (List Char) :=
  match skipBlanks s with
  | [] => .error (.before .endInValue [])
  | '"' :: rest => readString rest
  | rest => .error (wrongType expected rest)

mutual

/-- Reads one value with the blanks before it. `freeForm` gives `embeddedKey`
its meaning; the numbers bound the steps and the nesting. -/
def readValueIn (freeForm : Bool) : Nat → Nat → List Char → Read Value
  | 0, _, s => .error (.before .endInValue s)
  | steps + 1, depth, s =>
    match skipBlanks s with
    | [] => .error (.before .endInValue [])
    | 'n' :: rest => (readNull rest).map fun (_, rest) => (.null, rest)
    | 't' :: rest => (readTrue rest).map fun (_, rest) => (.bool true, rest)
    | 'f' :: rest => (readFalse rest).map fun (_, rest) => (.bool false, rest)
    | '-' :: rest => (readNumber true rest).map fun (n, rest) => (.number n, rest)
    | '"' :: rest => (readString rest).map fun (t, rest) => (.string (String.ofList t), rest)
    | '[' :: rest =>
      match depth with
      | 0 => .error (.on .tooDeep ('[' :: rest))
      | depth + 1 =>
        match readItemStart rest with
        | .error f => .error f
        | .ok (false, rest) => .ok (.array [], rest)
        | .ok (true, rest) =>
          (readItemsIn freeForm steps depth rest).map fun (items, rest) => (.array items, rest)
    | '\x7b' :: rest =>
      match depth with
      | 0 => .error (.on .tooDeep ('\x7b' :: rest))
      | depth + 1 =>
        match readMemberStart rest with
        | .error f => .error f
        | .ok (false, rest) => .ok (.object [], rest)
        | .ok (true, rest) =>
          match readString rest with
          | .error f => .error f
          | .ok (key, rest) =>
            match readColon rest with
            | .error f => .error f
            | .ok (_, rest) =>
              if freeForm ∧ String.ofList key = embeddedKey then
                readEmbeddedIn steps rest
              else
                (readMembersIn freeForm steps depth (String.ofList key) rest).map
                  fun (members, rest) => (.object members, rest)
    | c :: rest =>
      if isDigit c then (readNumber false (c :: rest)).map fun (n, rest) => (.number n, rest)
      else .error (.on .expectedValue (c :: rest))

def readItemsIn (freeForm : Bool) : Nat → Nat → List Char → Read (List Value)
  | 0, _, s => .error (.before .endInList s)
  | steps + 1, depth, s =>
    match readValueIn freeForm steps depth s with
    | .error f => .error f
    | .ok (v, rest) =>
      match readItemEnd rest with
      | .error f => .error f
      | .ok (false, rest) => .ok ([v], rest)
      | .ok (true, rest) =>
        (readItemsIn freeForm steps depth rest).map fun (items, rest) => (v :: items, rest)

def readMembersIn (freeForm : Bool) :
    Nat → Nat → String → List Char → Read (List (String × Value))
  | 0, _, _, s => .error (.before .endInObject s)
  | steps + 1, depth, key, s =>
    match readValueIn freeForm steps depth s with
    | .error f => .error f
    | .ok (v, rest) =>
      match readMemberEnd rest with
      | .error f => .error f
      | .ok (false, rest) => .ok ([(key, v)], rest)
      | .ok (true, rest) =>
        match readString rest with
        | .error f => .error f
        | .ok (next, rest) =>
          match readColon rest with
          | .error f => .error f
          | .ok (_, rest) =>
            (readMembersIn freeForm steps depth (String.ofList next) rest).map
              fun (members, rest) => ((key, v) :: members, rest)

/-- Reads the text under `embeddedKey` as a value of its own. Its faults keep
their position in that text. -/
def readEmbeddedIn : Nat → List Char → Read Value
  | 0, s => .error (.before .endInValue s)
  | steps + 1, s =>
    match readText "raw value" s with
    | .error f => .error f
    | .ok (text, rest) =>
      let settle (f : Fault) : Fault := ⟨f.reason, .settled (f.locate text).position⟩
      match readValueIn true steps depthLimit text with
      | .error f => .error (settle f)
      | .ok (v, trailing) =>
        match readEnd trailing with
        | .error f => .error (settle f)
        | .ok _ => (closeObject rest).map fun (_, rest) => (v, rest)

end

def readTree (s : List Char) : Read Value :=
  readValueIn false (stepBound s) depthLimit s

def readFreeFormWithin (depth : Nat) (s : List Char) : Read Value :=
  (readValueIn true (stepBound s) depth s).map fun (v, rest) => (v.normal, rest)

/-- Reads one free-form value. -/
def readFreeForm (s : List Char) : Read Value :=
  readFreeFormWithin depthLimit s

/-- Decodes a whole text: one value, then nothing but blanks. -/
def decode {α : Type} (read : List Char → Read α) (text : String) : Except Error α :=
  match read text.toList with
  | .error f => .error (f.locate text.toList)
  | .ok (a, rest) =>
    match readEnd rest with
    | .error f => .error (f.locate text.toList)
    | .ok _ => .ok a

def parse (text : String) : Except Error Value :=
  decode readFreeForm text

end AccountPortal.Json
