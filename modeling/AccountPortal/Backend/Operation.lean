import AccountPortal.Backend.Flow

/-!
Everything a client can be asked to do, as one type, so that sessions are lists
of operations. `Operation.plan` says which exchange an operation stands for; the
few that never reach the backend are answered at once.
-/

namespace AccountPortal.Backend

open Http Cookie Json

inductive Expected where
  | value
  | text
  | user
  | profile
  | receipt
  deriving DecidableEq, Repr

inductive Decoded where
  | value (v : Value)
  | text (s : String)
  | user (u : User)
  | profile (p : Profile)
  | receipt (r : Receipt)

/-- Reads what is expected. -/
def Expected.read : Expected → List Char → Read Decoded
  | .value, s => (readFreeForm s).map fun (v, rest) => (.value v, rest)
  | .text, s => (Shape.text.read s).map fun (t, rest) => (.text t, rest)
  | .user, s => (User.shape.read s).map fun (u, rest) => (.user u, rest)
  | .profile, s => (Profile.shape.read s).map fun (p, rest) => (.profile p, rest)
  | .receipt, s => (Receipt.shape.read s).map fun (r, rest) => (.receipt r, rest)

/-- The methods that carry a JSON body. -/
inductive Upload where
  | post
  | put
  | patch
  deriving DecidableEq, Repr

def Upload.method : Upload → Method
  | .post => .post
  | .put => .put
  | .patch => .patch

inductive Operation where
  | buildRequest (method : Method) (path : String) (body : Option String)
  | request (method : Method) (path : String) (body : Option String)
  | get (path : String) (expected : Expected)
  /-- A body without a value has no JSON text. -/
  | upload (kind : Upload) (path : String) (body : Option Value) (expected : Expected)
  | delete (path : String)
  | logout
  | bootstrap
  | currentUser
  | login (credentials : Credentials)
  | register (registration : Registration)
  | submitLogin (credentials : Credentials)
  | registerAccount (registration : Registration)
  | signup (form : Form.SignupForm)
  | loadDashboard
  | signOut

inductive Answer where
  | request (r : Request)
  | response (r : Except Error Response)
  | decoded (r : Except Error Decoded)
  | done (r : Except Error Unit)
  | ready (token : Bool)
  | currentUser (r : Except Error CurrentUser)
  | receipt (r : Except Error Receipt)
  | registered (r : Except Error (Option User))
  | login (outcome : LoginOutcome)
  | signup (outcome : SignupOutcome)
  | violated (rule : Form.SignupRule)
  | load (load : Session.Load)
  | goTo (route : Route)

/-- How an operation is carried out: by one exchange, or without any. -/
inductive Plan where
  | exchange (x : Exchange Answer)
  | immediate (answer : Base → Jar → Answer)

def keyNotText : Error := .encode Reason.keyMustBeString.text

def Operation.plan : Operation → Plan
  | .buildRequest method path body =>
    .immediate fun base jar => .request (Backend.buildRequest base jar method path body)
  | .request method path body => .exchange ((Call.raw method path body).map .response)
  | .get path expected => .exchange ((Call.fetch .get path none expected.read).map .decoded)
  | .upload kind path (some body) expected =>
    .exchange ((Call.fetch kind.method path (some body.compact) expected.read).map .decoded)
  | .upload _ _ none _ => .immediate fun _ _ => .decoded (.error keyNotText)
  | .delete path => .exchange ((Call.plain .delete path).map .done)
  | .logout => .exchange (Backend.logout.map .done)
  | .bootstrap => .exchange (Backend.bootstrap.map .ready)
  | .currentUser => .exchange (Backend.currentUser.map .currentUser)
  | .login credentials => .exchange ((Backend.login credentials).map .receipt)
  | .register registration => .exchange ((Backend.register registration).map .registered)
  | .submitLogin credentials => .exchange ((Backend.submitLogin credentials).map .login)
  | .registerAccount registration =>
    .exchange ((Backend.registerAccount registration).map .signup)
  | .signup form =>
    match form.validate with
    | .ok registration => .exchange ((Backend.registerAccount registration).map .signup)
    | .error rule => .immediate fun _ _ => .violated rule
  | .loadDashboard => .exchange (Backend.loadDashboard.map .load)
  | .signOut => .exchange (Backend.signOut.map .goTo)

end AccountPortal.Backend
