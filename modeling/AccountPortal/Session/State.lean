import AccountPortal.Account

/-!
Whether somebody is signed in.
-/

namespace AccountPortal.Session

/-- The signed-in account, if it is known, and whether it is still being asked for. -/
structure State where
  user : Option CurrentUser
  loading : Bool
  deriving DecidableEq, Repr

/-- What asking for the account led to. -/
inductive Load where
  | ready (user : CurrentUser)
  | signedOut
  deriving DecidableEq, Repr

namespace State

def initial : State := ⟨none, false⟩

def loadingNow : State := ⟨none, true⟩

def signedIn (user : CurrentUser) : State := ⟨some user, false⟩

def signedOut : State := ⟨none, false⟩

def ofLoad : Load → State
  | .ready user => signedIn user
  | .signedOut => signedOut

def username? (s : State) : Option String :=
  s.user.map (·.user.username)

/-- A guarded page is to be left once it is certain that nobody is signed in. -/
def mustLeave (s : State) : Bool :=
  !s.loading && s.user.isNone

end State

end AccountPortal.Session
