import AccountPortal.Host.Bundle
import AccountPortal.Host.Options
import AccountPortal.Host.Target
import AccountPortal.Page.App

/-!
What the server answers. Its routes are matched letter by letter against the
path: a probe, the pages, and the directory of the bundle, which holds no files
here. Every route takes `GET` and `HEAD` only.
-/

namespace AccountPortal.Host.Site

structure Request where
  method : String
  target : String
  accept : Option String
  deriving DecidableEq, Repr

structure Response where
  status : Nat
  location : Option String
  contentType : Option String
  allow : Option String
  /-- Of a page, what stands between the tags of its body. -/
  body : String
  deriving DecidableEq, Repr

inductive Resource where
  | probe
  | page (place : Page.App.Match)
  /-- A file of the bundle; the path is what follows the name of the bundle. -/
  | bundle (path : List Char)
  deriving DecidableEq, Repr

/-- The resource at a path. -/
def resource? (path : List Char) : Option Resource :=
  if path = "/healthz".toList then some .probe
  else if path = "/".toList then some (.page .home)
  else if path = "/login".toList then some (.page (.page .login))
  else if path = "/signup".toList then some (.page (.page .signup))
  else if path = "/dashboard".toList then some (.page (.page .dashboard))
  else if path = "/pkg".toList || "/pkg/".toList.isPrefixOf path then some (.bundle (path.drop 4))
  else none

def bare (status : Nat) : Response := ⟨status, none, none, none, ""⟩

/-- Whether the value of a header counts as text: it is ASCII and without controls but tabs. -/
def isPlainText (value : String) : Bool :=
  value.toList.all fun c => (0x20 ≤ c.toNat && c.toNat < 0x7F) || c == '\t'

def acceptsHtml (accept : Option String) : Bool :=
  accept.any fun value => isPlainText value && Text.occursIn "text/html".toList value.toList

/-- The answer with a page. The root redirects those who ask for pages, and
names the place to go to in any case. -/
def pageResponse (place : Page.App.Match) (path : List Char) (accept : Option String) : Response where
  status := if place = .home ∧ acceptsHtml accept then 302 else 200
  location := if place = .home then some Route.dashboard.path else none
  contentType := some "text/html; charset=utf-8"
  allow := none
  body := Markup.html (Page.App.view path)

inductive Look where
  | whole
  | headers
  deriving DecidableEq, Repr

def Look.ofMethod? (method : String) : Option Look :=
  if method = "GET" then some .whole
  else if method = "HEAD" then some .headers
  else none

/-- The status for a file of the bundle that is not found. That a name is
impossible is found out in time only when the file would be opened; for its
headers alone it counts as a failure of the server. -/
def missingStatus : Look → Bundle.Failure → Nat
  | _, .missing => 404
  | .whole, .nullName => 404
  | .headers, .nullName => 500
  | _, .tooLong => 500

def answer (siteRoot : String) (look : Look) (resource : Resource) (path : List Char)
    (accept : Option String) : Response :=
  match resource with
  | .probe => bare 200
  | .page place => pageResponse place path accept
  | .bundle file => bare (missingStatus look (Bundle.search siteRoot.toList file))

/-- The answer to a request for a path. -/
def respond (siteRoot : String) (method : String) (path : List Char) (accept : Option String) :
    Response :=
  match resource? path, Look.ofMethod? method with
  | none, _ => bare 404
  | some _, none => { bare 405 with allow := some "GET,HEAD" }
  | some resource, some .whole => answer siteRoot .whole resource path accept
  | some resource, some .headers =>
    { answer siteRoot .headers resource path accept with body := "" }

inductive Failure where
  | options (e : Options.Error)
  | request (e : Target.Error)
  deriving DecidableEq, Repr

/-- Assembles the site from variables and answers one request. -/
def serve (lookup : String → Option String) (r : Request) : Except Failure Response := do
  match Options.check lookup with
  | .error e => throw (.options e)
  | .ok _ => pure ()
  unless Target.isMethod r.method do throw (.request .method)
  match Target.path r.target with
  | .error e => throw (.request e)
  | .ok path =>
    unless r.accept.all Target.isHeaderValue do throw (.request .headerValue)
    return respond (Options.siteRoot lookup) r.method path r.accept

end AccountPortal.Host.Site
