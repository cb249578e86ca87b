import AccountPortal.Account.Format
import AccountPortal.Form.Email

/-!
The sign-up form and its rules. The rules are checked in a fixed order and the
first one violated is reported; only the two emptiness rules look at trimmed
text, and what is sent is what was typed.
-/

namespace AccountPortal.Form

open Json

structure SignupForm where
  username : String
  email : String
  password : String
  confirmation : String
  deriving DecidableEq, Repr

inductive SignupField where
  | username
  | email
  | password
  | confirmation
  deriving DecidableEq, Repr

/-- The rules of the form, in the order in which they are checked. -/
inductive SignupRule where
  | usernameRequired
  | usernameTooShort
  | emailRequired
  | emailInvalid
  | passwordRequired
  | passwordTooShort
  | passwordMismatch
  deriving DecidableEq, Repr

def SignupRule.message : SignupRule → String
  | .usernameRequired => "Username is required"
  | .usernameTooShort => "Username must be at least 3 characters"
  | .emailRequired => "Email is required"
  | .emailInvalid => "Please enter a valid email address"
  | .passwordRequired => "Password is required"
  | .passwordTooShort => "Password must be at least 6 characters"
  | .passwordMismatch => "Passwords do not match"

namespace SignupForm

def leastUsernameLength : Nat := 3

def leastPasswordLength : Nat := 6

def empty : SignupForm := ⟨"", "", "", ""⟩

def set (form : SignupForm) : SignupField → String → SignupForm
  | .username, s => { form with username := s }
  | .email, s => { form with email := s }
  | .password, s => { form with password := s }
  | .confirmation, s => { form with confirmation := s }

def get (form : SignupForm) : SignupField → String
  | .username => form.username
  | .email => form.email
  | .password => form.password
  | .confirmation => form.confirmation

/-- The registration that the form asks for, or the first rule it violates. -/
def validate (form : SignupForm) : Except SignupRule Registration :=
  if Text.blank form.username then .error .usernameRequired
  else if form.username.length < leastUsernameLength then .error .usernameTooShort
  else if Text.blank form.email then .error .emailRequired
  else if ¬ Email.isValid form.email then .error .emailInvalid
  else if form.password = "" then .error .passwordRequired
  else if form.password.length < leastPasswordLength then .error .passwordTooShort
  else if form.password ≠ form.confirmation then .error .passwordMismatch
  else .ok ⟨form.username, form.email, form.password⟩

def json (form : SignupForm) : Value :=
  .object [("username", .string form.username), ("email", .string form.email),
    ("password", .string form.password), ("confirmPassword", .string form.confirmation)]

structure Draft where
  username : Option String := none
  email : Option String := none
  password : Option String := none
  confirmation : Option String := none

def form : RecordForm Draft SignupForm where
  title := "struct SignupForm"
  empty := {}
  fields := [
    .of "username" true (·.username) (fun x d => { d with username := some x }) .text,
    .of "email" true (·.email) (fun x d => { d with email := some x }) .text,
    .of "password" true (·.password) (fun x d => { d with password := some x }) .text,
    .of "confirmPassword" true (·.confirmation)
      (fun x d => { d with confirmation := some x }) .text]
  build d := do
    let username ← needField "username" d.username
    let email ← needField "email" d.email
    let password ← needField "password" d.password
    let confirmation ← needField "confirmPassword" d.confirmation
    return ⟨username, email, password, confirmation⟩

def decode (text : String) : Except Error SignupForm := Json.decode form.read text

end SignupForm

end AccountPortal.Form
