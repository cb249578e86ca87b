import AccountPortal.Backend.Flow
import AccountPortal.Form.Flash
import AccountPortal.Form.Signup
import AccountPortal.Form.Status
import AccountPortal.Page.Component
import AccountPortal.Page.Program

/-!
The sign-up page. A form that violates a rule fails at once and sends nothing.
A new account leaves a flash message for the login page, which comes next.
-/

namespace AccountPortal.Page.Signup

open Form Markup Backend

structure State where
  form : SignupForm
  status : Status
  tried : Option Provider
  flash : Flash
  deriving DecidableEq, Repr

inductive Event where
  | edit (field : SignupField) (value : String)
  | submit
  | provider (p : Provider)
  deriving DecidableEq, Repr

/-- The page as it is mounted beside a flash slot, which it leaves alone. -/
def mount (flash : Flash) : State := ⟨.empty, .initial, none, flash⟩

def handle (s : State) : Event → Reaction State Registration
  | .edit field value => .quiet { s with form := s.form.set field value }
  | .provider p =>
    { state := { s with tried := some p }, log := [⟨.info, p.logText⟩] }
  | .submit =>
    if s.status.isBusy then { state := s, prevented := 1 }
    else
      let s := { s with status := .validating }
      match s.form.validate with
      | .error rule => { state := { s with status := .failed rule.message }, prevented := 1 }
      | .ok registration =>
        { state := { s with status := .submitting }
          prevented := 1
          started := [registration] }

def conclude (s : State) : SignupOutcome → Reaction State Registration
  | .redirect route message =>
    { state := { s with status := .succeeded, flash := s.flash.set message }
      navigated := [.to route] }
  | .failed message => .quiet { s with status := .failed message }

def program : Program State Event Registration where
  handle := handle
  task registration := (registerAccount registration).map fun outcome s => conclude s outcome

def view (path : List Char) (s : State) : List Node :=
  let busy := s.status.isBusy
  [card "Create Account" "Join Spotify Voice Manager" (
    [errorAlert s.status.error?,
      classed "form" "auth-form" [
        Input.view ⟨"username", "Username", "text", "Choose a username", busy,
          s.form.username⟩,
        Input.view ⟨"email", "Email", "email", "you@example.com", busy, s.form.email⟩,
        Input.view ⟨"password", "Password", "password", "At least 6 characters", busy,
          s.form.password⟩,
        Input.view ⟨"confirmPassword", "Confirm Password", "password", "Repeat your password",
          busy, s.form.confirmation⟩,
        submitButton busy (if busy then "Creating account..." else "Sign Up")]] ++
    providerButtons "Sign up" s.tried ++
    [footer "Already have an account? " .login "Log in" path])]

end AccountPortal.Page.Signup
