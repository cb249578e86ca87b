import AccountPortal.Text.Pieces

/-!
Requests to the backend and what comes back.
-/

namespace AccountPortal.Http

inductive Method where
  | get
  | post
  | put
  | patch
  | delete
  deriving DecidableEq, Repr

def Method.name : Method → String
  | .get => "GET"
  | .post => "POST"
  | .put => "PUT"
  | .patch => "PATCH"
  | .delete => "DELETE"

structure Request where
  method : Method
  url : String
  headers : List (String × String)
  body : Option String
  /-- Cookies go along even to another origin. -/
  withCredentials : Bool
  deriving DecidableEq, Repr

/-- The value of the first header with the given name, whatever the case of its letters. -/
def Request.header? (r : Request) (name : String) : Option String :=
  (r.headers.find? fun (key, _) => Text.sameIgnoringCase key name).map (·.2)

structure Response where
  status : Nat
  body : String
  deriving DecidableEq, Repr

def Response.isSuccess (r : Response) : Bool := 200 ≤ r.status && r.status < 300

/-- Why no status came back. -/
inductive Failure where
  | network (message : String)
  | unavailable
  deriving DecidableEq, Repr

def Failure.message : Failure → String
  | .network message => "network error: " ++ message
  | .unavailable => "not available on server"

/-- What becomes of a request that was sent. -/
abbrev Outcome := Except Failure Response

end AccountPortal.Http
