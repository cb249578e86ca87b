import AccountPortal.Backend.Session

/-!
How a browser is asked to fetch. A fetch is put together with a builder: it is begun with
a method and an address, told whether cookies go along, given the headers one after
another, and built with a body or without. The builder belongs to the browser and is a
parameter here. Building may fail and so may sending, and either counts as a failure of
the network.
-/

namespace AccountPortal.Backend

open Http Cookie

inductive CookieMode where
  /-- Cookies go along to the origin of the page only. -/
  | sameOrigin
  | always
  deriving DecidableEq, Repr

structure Fetch where
  method : Method
  url : String
  cookies : CookieMode
  headers : List (String × String)
  body : Option String
  deriving DecidableEq, Repr

def Fetch.request (f : Fetch) : Request :=
  ⟨f.method, f.url, f.headers, f.body, f.cookies = .always⟩

/-- What a browser offers to put fetches together with. A fetch in the making is a `β`. -/
structure Builder (β : Type) where
  start : Method → String → β
  withCookies : β → β
  withHeader : β → String → String → β
  build : β → Except String Fetch
  buildWith : β → String → Except String Fetch

namespace Builder

variable {β : Type}

def tell (b : Builder β) (request : Request) : β :=
  let begun := b.start request.method request.url
  let allowed := if request.withCredentials then b.withCookies begun else begun
  request.headers.foldl (fun f header => b.withHeader f header.1 header.2) allowed

/-- Puts the fetch for a request together. -/
def fetchFor (b : Builder β) (request : Request) : Except Failure Fetch :=
  let built :=
    match request.body with
    | some body => b.buildWith (b.tell request) body
    | none => b.build (b.tell request)
  built.mapError .network

/-- A builder that keeps what it is told and refuses nothing but a body with `GET`. It
stands in for that of a browser where there is none. -/
def noting : Builder Fetch where
  start method url := ⟨method, url, .sameOrigin, [], none⟩
  withCookies f := { f with cookies := .always }
  withHeader f name value := { f with headers := f.headers ++ [(name, value)] }
  build f := .ok f
  buildWith f body :=
    if f.method = .get then .error "Request with GET/HEAD method cannot have body."
    else .ok { f with body := some body }

end Builder

def fetchRequest (request : Request) : Except Failure Request :=
  (Builder.noting.fetchFor request).map Fetch.request

/-- What a fetch comes to: a failure, or a status with a body that may be unreadable. -/
inductive Fetched where
  | failed (message : String)
  | answered (status : Nat) (body : Option String)
  deriving DecidableEq, Repr

/-- The outcome of a fetch. A status counts even if its body cannot be read. -/
def Fetched.outcome : Fetched → Outcome
  | .failed message => .error (.network message)
  | .answered status body => .ok ⟨status, body.getD ""⟩

abbrev Network (σ : Type) := σ → Request → Jar → Fetched × Jar × σ

structure Traffic (σ : Type) where
  requests : List Request
  network : σ

namespace Network

variable {σ : Type}

def meet (network : Network σ) (t : Traffic σ) (request : Request) (jar : Jar) :
    Outcome × Jar × Traffic σ :=
  let (fetched, jar, state) := network t.network request jar
  (fetched.outcome, jar, ⟨t.requests ++ [request], state⟩)

/-- The wire of a browser. What cannot be built does not reach the network. -/
def browserWire {β : Type} (b : Builder β) (network : Network σ) : Wire (Traffic σ) :=
  fun t request jar =>
    match b.fetchFor request with
    | .error failure => (.error failure, jar, t)
    | .ok fetch => network.meet t fetch.request jar

def prepared (setCookies : Option String) : Network (List Fetched)
  | [], _, jar => (.failed "no scripted reply", setCookies.or jar, [])
  | reply :: rest, _, jar => (reply, setCookies.or jar, rest)

end Network

end AccountPortal.Backend
