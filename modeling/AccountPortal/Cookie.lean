import AccountPortal.Text.Blank
import AccountPortal.Text.Pieces

/-!
Cookie strings of the form `name=value; name=value`. The first segment with the
wanted name decides, even when its value is empty and so counts as absent.
-/

namespace AccountPortal.Cookie

open Text

def csrfName : String := "csrftoken"

def segment? (s : List Char) : Option (List Char × List Char) :=
  cut? '=' (trimChars s)

/-- The value of the first segment with the given name. -/
def valueIn? (name : List Char) : List (List Char) → Option (List Char)
  | [] => none
  | s :: rest =>
    match segment? s with
    | some (key, value) => if key = name then some (trimChars value) else valueIn? name rest
    | none => valueIn? name rest

/-- The value of the named cookie; an empty value counts as absent. -/
def find? (raw name : String) : Option String :=
  match valueIn? name.toList (pieces ';' raw.toList) with
  | some [] => none
  | some value => some (String.ofList value)
  | none => none

/-- A cookie store: its cookie string, or `none` where no store can be reached. -/
abbrev Jar := Option String

def Jar.get? (jar : Jar) (name : String) : Option String :=
  match jar with
  | some raw => find? raw name
  | none => none

def Jar.token? (jar : Jar) : Option String := Jar.get? jar csrfName

end AccountPortal.Cookie
