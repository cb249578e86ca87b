import AccountPortal.Backend.Flow
import AccountPortal.Form.Flash
import AccountPortal.Form.Login
import AccountPortal.Form.Status
import AccountPortal.Page.Component
import AccountPortal.Page.Program

/-!
The login page. It takes the pending flash message when it is mounted and shows
it until the first accepted attempt. While an attempt is under way further ones
are ignored, and what is sent is what the form held when it was submitted.
-/

namespace AccountPortal.Page.Login

open Form Markup Backend

structure State where
  form : LoginForm
  status : Status
  notice : Option String
  tried : Option Provider
  flash : Flash
  deriving DecidableEq, Repr

inductive Event where
  | edit (field : LoginField) (value : String)
  | submit
  | provider (p : Provider)
  deriving DecidableEq, Repr

def mount (flash : Flash) : State :=
  let (notice, flash) := flash.take
  ⟨.empty, .initial, notice, none, flash⟩

def handle (s : State) : Event → Reaction State Credentials
  | .edit field value => .quiet { s with form := s.form.set field value }
  | .provider p =>
    { state := { s with tried := some p }, log := [⟨.info, p.logText⟩] }
  | .submit =>
    if s.status.isBusy then { state := s, prevented := 1 }
    else
      { state := { s with status := .submitting, notice := none }
        prevented := 1
        started := [s.form.credentials] }

def conclude (s : State) : LoginOutcome → Reaction State Credentials
  | .redirect route =>
    { state := { s with status := .succeeded }, navigated := [.to route] }
  | .failed message => .quiet { s with status := .failed message }

def program : Program State Event Credentials where
  handle := handle
  task credentials := (submitLogin credentials).map fun outcome s => conclude s outcome

/-- The page at a path. -/
def view (path : List Char) (s : State) : List Node :=
  let busy := s.status.isBusy
  [card "Welcome Back" "Log in to Spotify Voice Manager" (
    [noticeAlert s.notice,
      errorAlert s.status.error?,
      classed "form" "auth-form" [
        Input.view ⟨"email", "Email", "email", "you@example.com", busy, s.form.email⟩,
        Input.view ⟨"password", "Password", "password", "Your password", busy,
          s.form.password⟩,
        submitButton busy (if busy then "Logging in..." else "Log In")]] ++
    providerButtons "Continue" s.tried ++
    [footer "Don't have an account? " .signup "Sign up" path])]

end AccountPortal.Page.Login
