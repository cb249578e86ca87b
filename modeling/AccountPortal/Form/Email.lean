import AccountPortal.Text.Blank
import AccountPortal.Text.Pieces

/-!
The form of an e-mail address: `local@domain` with a dot inside the domain, one
`@`, and no blank anywhere.
-/

namespace AccountPortal.Form.Email

open Text

def isPart (c : Char) : Bool := !isBlank c && c != '@'

/-- Whether a dot stands neither first nor last. -/
def hasInnerDot (domain : List Char) : Bool :=
  domain.tail.dropLast.contains '.'

def isValid (s : String) : Bool :=
  match cut? '@' s.toList with
  | none => false
  | some (name, domain) =>
    !name.isEmpty && name.all isPart && domain.all isPart && hasInnerDot domain

end AccountPortal.Form.Email
