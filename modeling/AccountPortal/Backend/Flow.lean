import AccountPortal.Backend.Call
import AccountPortal.Form.Signup
import AccountPortal.Route
import AccountPortal.Session.State

/-!
What the pages do with the backend: a call, a line in the log, and where to go
or what to say next.
-/

namespace AccountPortal.Backend

inductive LoginOutcome where
  | redirect (route : Route)
  | failed (message : String)
  deriving DecidableEq, Repr

inductive SignupOutcome where
  | redirect (route : Route) (flash : String)
  | failed (message : String)
  deriving DecidableEq, Repr

def submitLogin (credentials : Credentials) : Exchange LoginOutcome :=
  (login credentials).andThen fun
    | .ok receipt =>
      (.redirect .dashboard, [⟨.info, receipt.message.getD "login successful"⟩])
    | .error e => (.failed e.loginMessage, [⟨.warn, "login failed: " ++ e.message⟩])

def signupFlash : String := "Account created successfully! Please log in."

/-- Tries to open an account. Success leads to the login page with a message. -/
def registerAccount (registration : Registration) : Exchange SignupOutcome :=
  (register registration).andThen fun
    | .ok created =>
      let name := (created.map (·.username)).getD registration.username
      (.redirect .login signupFlash, [⟨.info, "signup successful for " ++ name⟩])
    | .error e => (.failed e.signupMessage, [⟨.warn, "signup failed: " ++ e.message⟩])

/-- Asks for the account; any failure counts as nobody being signed in. -/
def loadDashboard : Exchange Session.Load :=
  currentUser.andThen fun
    | .ok user => (.ready user, [])
    | .error e => (.signedOut, [⟨.warn, "failed to fetch current user: " ++ e.message⟩])

/-- Signs out and leads to the login page, whatever the backend answers. -/
def signOut : Exchange Route :=
  logout.andThen fun
    | .ok _ => (.login, [])
    | .error e => (.login, [⟨.warn, "logout failed: " ++ e.message⟩])

end AccountPortal.Backend
