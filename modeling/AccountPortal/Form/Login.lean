import AccountPortal.Account.Format

/-!
The login form: an address and a password, sent exactly as typed.
-/

namespace AccountPortal.Form

open Json

structure LoginForm where
  email : String
  password : String
  deriving DecidableEq, Repr

inductive LoginField where
  | email
  | password
  deriving DecidableEq, Repr

namespace LoginForm

def empty : LoginForm := ⟨"", ""⟩

def set (form : LoginForm) : LoginField → String → LoginForm
  | .email, s => { form with email := s }
  | .password, s => { form with password := s }

/-- What a submitted form sends. -/
def credentials (form : LoginForm) : Credentials := ⟨form.email, form.password⟩

def json (form : LoginForm) : Value :=
  .object [("email", .string form.email), ("password", .string form.password)]

structure Draft where
  email : Option String := none
  password : Option String := none

def form : RecordForm Draft LoginForm where
  title := "struct LoginForm"
  empty := {}
  fields := [
    .of "email" true (·.email) (fun x d => { d with email := some x }) .text,
    .of "password" true (·.password) (fun x d => { d with password := some x }) .text]
  build d := do
    let email ← needField "email" d.email
    let password ← needField "password" d.password
    return ⟨email, password⟩

def decode (text : String) : Except Error LoginForm := Json.decode form.read text

end LoginForm

end AccountPortal.Form
