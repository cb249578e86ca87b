import AccountPortal.Page.Dashboard
import AccountPortal.Page.Login
import AccountPortal.Page.Signup

/-!
The whole site as one application: its router picks the page for a path. The
root leads on to the dashboard.
-/

namespace AccountPortal.Page.App

open Form Markup

inductive Match where
  | page (route : Route)
  | home
  deriving DecidableEq, Repr

/-- The single segment that each page answers to; the root has none. -/
def segment : Match → List Char
  | .page .login => "login".toList
  | .page .signup => "signup".toList
  | .page .dashboard => "dashboard".toList
  | .home => []

def places : List Match := [.page .login, .page .signup, .page .dashboard, .home]

/-- Whether a path is a slash and the segment; one more slash after the segment
does not matter. The root also answers to the empty path. -/
def answersTo (place : Match) : List Char → Bool
  | [] => (segment place).isEmpty
  | '/' :: inner =>
    inner == segment place || (inner == segment place ++ ['/'] && !(segment place).isEmpty)
  | _ => false

/-- The place at a path. -/
def route? (path : List Char) : Option Match :=
  places.find? fun place => answersTo place path

def pageView (path : List Char) : Route → List Node
  | .login => Login.view path (Login.mount .empty)
  | .signup => Signup.view path (Signup.mount .empty)
  | .dashboard => Dashboard.view (Dashboard.initial .empty)

/-- The application at a path. A redirection shows nothing. -/
def view (path : List Char) : List Node :=
  match route? path with
  | some (.page route) => pageView path route
  | some .home => [.absent]
  | none => [.text "Page not found."]

end AccountPortal.Page.App
