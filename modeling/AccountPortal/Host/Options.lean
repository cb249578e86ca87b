import AccountPortal.Host.Address
import AccountPortal.Text.Pieces

/-!
The settings of the page renderer, read from variables when the server is put
together. They do not change what this site answers, but a bad one keeps it
from starting; the first bad one in the order of checking is reported.
-/

namespace AccountPortal.Host.Options

inductive Error where
  | environment (value : String)
  | siteAddress
  | number (fault : Unsigned.Fault)
  | protocol (value : String)
  | flag
  deriving DecidableEq, Repr

def Error.reason : Error → String
  | .environment value =>
    value ++ " is not a supported environment. " ++
      "Use either `dev`, `development`, `prod`, or `production`."
  | .siteAddress => "invalid socket address syntax"
  | .number fault => fault.message
  | .protocol value =>
    value ++ " is not a supported websocket protocol. Use only `ws` or `wss`."
  | .flag => "provided string was not `true` or `false`"

def Error.message (e : Error) : String :=
  "leptos configuration: Config Error: " ++ e.reason

def lower (s : String) : String := String.ofList (s.toList.map Text.lowerAscii)

def checkEnvironment (s : String) : Except Error Unit :=
  if ["dev", "development", "prod", "production"].contains (lower s) then .ok ()
  else .error (.environment s)

def checkAddress (s : String) : Except Error Unit :=
  if Address.isWithPort s.toList then .ok () else .error .siteAddress

def checkNumber (s : String) : Except Error Unit :=
  match Unsigned.parse (Nat.pow 2 32) s.toList with
  | .ok _ => .ok ()
  | .error fault => .error (.number fault)

def checkProtocol (s : String) : Except Error Unit :=
  if ["ws", "wss"].contains (lower s) then .ok () else .error (.protocol s)

def checkFlag (s : String) : Except Error Unit :=
  if s = "true" ∨ s = "false" then .ok () else .error .flag

/-- The variables that can be wrong, in the order in which they are checked. -/
def checks : List (String × (String → Except Error Unit)) :=
  [("LEPTOS_ENV", checkEnvironment),
    ("LEPTOS_SITE_ADDR", checkAddress),
    ("LEPTOS_RELOAD_PORT", checkNumber),
    ("LEPTOS_RELOAD_EXTERNAL_PORT", checkNumber),
    ("LEPTOS_RELOAD_WS_PROTOCOL", checkProtocol),
    ("LEPTOS_HASH_FILES", checkFlag)]

/-- Checks the variables that are set. -/
def check (lookup : String → Option String) : Except Error Unit :=
  checks.forM fun (name, test) =>
    match lookup name with
    | some value => test value
    | none => .ok ()

def siteRoot (lookup : String → Option String) : String :=
  (lookup "LEPTOS_SITE_ROOT").getD "target/site"

end AccountPortal.Host.Options
