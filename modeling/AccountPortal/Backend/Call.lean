import AccountPortal.Account.Format
import AccountPortal.Backend.Exchange

/-!
The calls that the backend offers. A call fails if no status came back, or if
the status is not a success; what it makes of the body of a success is its own
affair. Calls never try again.
-/

namespace AccountPortal.Backend

open Http Json

abbrev Call (α : Type) := Exchange (Except Error α)

def accepted : Outcome → Except Error Response
  | .error failure => .error (.transport failure)
  | .ok response =>
    if response.isSuccess then .ok response
    else .error (.status response.status (Complaint.parse response.body))

def decodeBody {α : Type} (read : List Char → Read α) (response : Response) : Except Error α :=
  match Json.decode read response.body with
  | .ok a => .ok a
  | .error e => .error (.decode e.message)

namespace Call

variable {α : Type}

def of (method : Method) (path : String) (body : Option String)
    (read : Response → Except Error α) : Call α where
  method := method
  path := path
  body := body
  conclude outcome _ := (accepted outcome >>= read, [])

/-- The reply as it is. -/
def raw (method : Method) (path : String) (body : Option String) : Call Response :=
  of method path body .ok

def fetch (method : Method) (path : String) (body : Option String)
    (read : List Char → Read α) : Call α :=
  of method path body (decodeBody read)

/-- A call whose reply does not matter. -/
def plain (method : Method) (path : String) : Call Unit :=
  of method path none fun _ => .ok ()

end Call

def mePath : String := "/auth/me/"

def loginPath : String := "/auth/login/"

def registerPath : String := "/auth/register/"

def logoutPath : String := "/auth/logout/"

def currentUser : Call CurrentUser := .fetch .get mePath none CurrentUser.read

/-- Signs in. A body of unexpected form counts as an empty receipt. -/
def login (credentials : Credentials) : Call Receipt :=
  .of .post loginPath (some credentials.json.compact) fun response =>
    match Json.decode Receipt.shape.read response.body with
    | .ok receipt => .ok receipt
    | .error _ => .ok .empty

/-- Opens an account. The account is returned if the body holds it. -/
def register (registration : Registration) : Call (Option User) :=
  .of .post registerPath (some registration.json.compact) fun response =>
    .ok (Json.decode User.shape.read response.body).toOption

def logout : Call Unit := .plain .post logoutPath

/-- Provokes the backend into setting the token cookie by asking for the account.
Yields whether there is a token afterwards; the answer itself does not matter. -/
def bootstrap : Exchange Bool where
  method := .get
  path := mePath
  body := none
  conclude outcome jar :=
    let ready := jar.token?.isSome
    let failed :=
      match accepted outcome with
      | .error e => [⟨.debug, "csrf bootstrap probe failed: " ++ e.message⟩]
      | .ok _ => []
    let missing :=
      if ready then []
      else [⟨.warn, "no " ++ Cookie.csrfName ++
        " cookie after bootstrap; unsafe requests may be rejected"⟩]
    (ready, failed ++ missing)

end AccountPortal.Backend
