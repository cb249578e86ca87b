/-!
The pages of the portal and their paths.
-/

namespace AccountPortal

inductive Route where
  | login
  | signup
  | dashboard
  deriving DecidableEq, Repr

def Route.path : Route → String
  | .login => "/login"
  | .signup => "/signup"
  | .dashboard => "/dashboard"

/-- A change of page that a page asks for; `replace` leaves no history entry. -/
structure Navigation where
  path : String
  replace : Bool
  deriving DecidableEq, Repr

def Navigation.to (route : Route) : Navigation := ⟨route.path, false⟩

end AccountPortal
