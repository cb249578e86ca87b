import AccountPortal.Backend.Base
import AccountPortal.Backend.Error
import AccountPortal.Cookie

/-!
One exchange with the backend: the request that is sent and what is concluded
from its outcome. An exchange is a value; what sends the request and when the
outcome arrives is up to whoever carries it out. The token is looked up when the
request is built, so it is the one in the store at that moment.
-/

namespace AccountPortal.Backend

open Http Cookie

inductive Level where
  | debug
  | info
  | warn
  deriving DecidableEq, Repr

def Level.name : Level → String
  | .debug => "DEBUG"
  | .info => "INFO"
  | .warn => "WARN"

structure LogLine where
  level : Level
  text : String
  deriving DecidableEq, Repr

def csrfHeader : String := "X-CSRFToken"

/-- The headers of every request, for the token that is known. -/
def headersFor (token : Option String) : List (String × String) :=
  ("Content-Type", "application/json") ::
    match token with
    | some t => [(csrfHeader, t)]
    | none => []

/-- The request for an endpoint, built on the store as it is. -/
def buildRequest (base : Base) (jar : Jar) (method : Method) (path : String)
    (body : Option String) : Request where
  method := method
  url := base.endpoint path
  headers := headersFor jar.token?
  body := body
  withCredentials := true

structure Exchange (β : Type) where
  method : Method
  path : String
  body : Option String
  /-- What follows from the outcome, given the store at that time. -/
  conclude : Outcome → Jar → β × List LogLine

namespace Exchange

variable {β γ : Type}

def request (x : Exchange β) (base : Base) (jar : Jar) : Request :=
  buildRequest base jar x.method x.path x.body

def announcement (x : Exchange β) (base : Base) : LogLine :=
  ⟨.debug, x.method.name ++ " " ++ base.endpoint x.path⟩

/-- An exchange that goes on from the conclusion of another, logging more. -/
def andThen (x : Exchange β) (f : β → γ × List LogLine) : Exchange γ where
  method := x.method
  path := x.path
  body := x.body
  conclude outcome jar :=
    let (b, log) := x.conclude outcome jar
    let (c, more) := f b
    (c, log ++ more)

def map (f : β → γ) (x : Exchange β) : Exchange γ :=
  x.andThen fun b => (f b, [])

end Exchange

structure Report (β : Type) where
  result : β
  request : Request
  log : List LogLine
  jar : Jar

/-- Carries out an exchange at once. `send` yields the outcome of a request and
the cookie store after it. -/
def Exchange.perform {β : Type} (x : Exchange β) (base : Base) (jar : Jar)
    (send : Request → Outcome × Jar) : Report β :=
  let request := x.request base jar
  let (outcome, jar) := send request
  let (result, log) := x.conclude outcome jar
  ⟨result, request, x.announcement base :: log, jar⟩

end AccountPortal.Backend
