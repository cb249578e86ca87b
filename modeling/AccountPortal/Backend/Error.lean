import AccountPortal.Http.Message
import AccountPortal.Json.Reader

/-!
Failures of a call to the backend, and the messages shown for them.
-/

namespace AccountPortal.Backend

open Json

/-- What the body of a refusal says for itself. -/
structure Complaint where
  error : Option String
  detail : Option String
  deriving DecidableEq, Repr

def spokenMember? (key : String) (members : List (String × Value)) : Option String :=
  match (Value.lastMember? key members).bind Value.text? with
  | some "" => none
  | said => said

/-- The complaint in a body. A body that is not an object of JSON says nothing. -/
def Complaint.parse (body : String) : Complaint :=
  match Json.parse body with
  | .ok (.object members) => ⟨spokenMember? "error" members, spokenMember? "detail" members⟩
  | _ => ⟨none, none⟩

inductive Error where
  /-- No status came back. -/
  | transport (failure : Http.Failure)
  /-- The backend refused. -/
  | status (code : Nat) (complaint : Complaint)
  /-- The backend agreed, but its answer is not of the expected form. -/
  | decode (message : String)
  /-- The request body has no JSON text. -/
  | encode (message : String)
  deriving DecidableEq, Repr

namespace Error

def message : Error → String
  | .transport failure => failure.message
  | .status code _ => "request failed: " ++ toString code
  | .decode message => "response decode failed: " ++ message
  | .encode message => "request encode failed: " ++ message

def status? : Error → Option Nat
  | .status code _ => some code
  | _ => none

def serverError? : Error → Option String
  | .status _ complaint => complaint.error
  | _ => none

def serverDetail? : Error → Option String
  | .status _ complaint => complaint.detail
  | _ => none

def loginMessage (e : Error) : String :=
  e.serverError?.getD "Login failed. Please try again."

def signupMessage (e : Error) : String :=
  (e.serverError?.or e.serverDetail?).getD "Signup failed. Please try again."

end Error

end AccountPortal.Backend
