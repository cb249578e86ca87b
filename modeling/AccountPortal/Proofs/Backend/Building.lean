import AccountPortal.Backend.Fetch

/-!
Requests put together in a browser. What is relied on of its builder is written down as
laws: what a fetch in the making has been told, that a header of a new name goes behind
the others if a browser keeps such a header as it is, and what cannot be built. From
these it follows which requests are fetched as they stand.
-/
namespace AccountPortal.Backend

open Http Cookie

/-- No two headers have the same name, whatever the case of its letters. -/
def DistinctNames (headers : List (String × String)) : Prop :=
  headers.Pairwise fun a b => Text.sameIgnoringCase a.1 b.1 = false

/-- The characters of names of headers. -/
def isTokenChar (c : Char) : Bool :=
  c.isAlphanum ||
    c.toNat ∈ [33, 35, 36, 37, 38, 39, 42, 43, 45, 46, 94, 95, 96, 124, 126]

/-- Names that a browser reserves for itself, or lets pages set for some values only. -/
def reservedNames : List String :=
  ["accept-charset", "accept-encoding", "access-control-request-headers",
    "access-control-request-method", "connection", "content-length", "cookie", "cookie2", "date",
    "dnt", "expect", "host", "keep-alive", "origin", "referer", "set-cookie", "te", "trailer",
    "transfer-encoding", "upgrade", "via", "x-http-method", "x-http-method-override",
    "x-method-override"]

def isReserved (name : String) : Bool :=
  name.toLower ∈ reservedNames || name.toLower.startsWith "proxy-" ||
    name.toLower.startsWith "sec-"

def isValueChar (c : Char) : Bool :=
  c.toNat < 256 && c ≠ '\x00' && c ≠ '\n' && c ≠ '\r'

/-- White space that is taken off the ends of a value. -/
def isHeaderBlank (c : Char) : Bool := c = ' ' || c = '\t'

/-- A header that a browser keeps as it is: its name is a token that pages may set, and its
value is of Latin characters on one line, with no blank at its ends. -/
structure Verbatim (name value : String) : Prop where
  nonempty : name ≠ ""
  token : name.toList.all isTokenChar = true
  unreserved : isReserved name = false
  latin : value.toList.all isValueChar = true
  head : value.toList.head?.any isHeaderBlank = false
  last : value.toList.getLast?.any isHeaderBlank = false

instance (name value : String) : Decidable (Verbatim name value) :=
  decidable_of_iff
    (name ≠ "" ∧ name.toList.all isTokenChar = true ∧ isReserved name = false ∧
      value.toList.all isValueChar = true ∧ value.toList.head?.any isHeaderBlank = false ∧
      value.toList.getLast?.any isHeaderBlank = false)
    ⟨fun ⟨nonempty, token, unreserved, latin, head, last⟩ =>
      ⟨nonempty, token, unreserved, latin, head, last⟩,
      fun h => ⟨h.nonempty, h.token, h.unreserved, h.latin, h.head, h.last⟩⟩

theorem verbatim_contentType : Verbatim "Content-Type" "application/json" := by decide +kernel

def NamesBody (headers : List (String × String)) : Prop :=
  ∃ h ∈ headers, Text.sameIgnoringCase h.1 "Content-Type" = true

/-- What is documented of the builder of a browser. `told` is what a fetch in the making
would say if it were built, and `resolve` what a text is as an address: none if it cannot
be read as one, or if it names a user. -/
structure Documented {β : Type} (b : Builder β) (told : β → Fetch)
    (resolve : String → Option String) : Prop where
  start : ∀ method url, told (b.start method url) = ⟨method, url, .sameOrigin, [], none⟩
  cookies : ∀ f, told (b.withCookies f) = { told f with cookies := .always }
  header : ∀ f name value, Verbatim name value →
    (∀ h ∈ (told f).headers, Text.sameIgnoringCase h.1 name = false) →
    told (b.withHeader f name value) =
      { told f with headers := (told f).headers ++ [(name, value)] }
  build : ∀ f url, resolve (told f).url = some url → b.build f = .ok { told f with url := url }
  /-- A body whose kind is not named would be given a header that names it. -/
  buildWith : ∀ f url body, resolve (told f).url = some url → (told f).method ≠ .get →
    NamesBody (told f).headers →
    b.buildWith f body = .ok { told f with url := url, body := some body }
  unresolved : ∀ f, resolve (told f).url = none →
    (∃ message, b.build f = .error message) ∧ ∀ body, ∃ message, b.buildWith f body = .error message
  refused : ∀ f body, (told f).method = .get → ∃ message, b.buildWith f body = .error message

theorem documented_noting : Documented .noting id some where
  start _ _ := rfl
  cookies _ := rfl
  header _ _ _ _ _ := rfl
  build f url h := by
    obtain rfl := Option.some.inj h
    rfl
  buildWith f url body h hmethod _ := by
    obtain rfl := Option.some.inj h
    exact if_neg hmethod
  unresolved _ h := by cases h
  refused _ _ h := ⟨_, if_pos h⟩

/-- A request with a body that no browser sends. -/
def Refused (request : Request) : Prop := request.method = .get ∧ request.body.isSome = true

/-- A request that a browser takes as it stands, up to its address. -/
structure Plain (request : Request) : Prop where
  names : DistinctNames request.headers
  headers : ∀ h ∈ request.headers, Verbatim h.1 h.2
  kind : request.body.isSome = true → NamesBody request.headers

/-- A fetch says what a request says, at an address. -/
structure SaysAt (url : String) (request : Request) (fetch : Fetch) : Prop where
  method : fetch.method = request.method
  url : fetch.url = url
  headers : fetch.headers = request.headers
  body : fetch.body = request.body
  cookies : fetch.cookies = .always ↔ request.withCredentials = true

theorem SaysAt.request_eq {url : String} {request : Request} {fetch : Fetch}
    (h : SaysAt url request fetch) : fetch.request = { request with url := url } := by
  have hcookies : decide (fetch.cookies = .always) = request.withCredentials := by
    rw [Bool.eq_iff_iff, decide_eq_true_eq]
    exact h.cookies
  rw [Fetch.request, h.method, h.url, h.headers, h.body, hcookies]

section FetchFor

variable {β : Type} (b : Builder β) {request : Request}

theorem fetchFor_of_none (h : request.body = none) :
    b.fetchFor request = (b.build (b.tell request)).mapError .network := by
  simp only [Builder.fetchFor, h]

theorem fetchFor_of_some {body : String} (h : request.body = some body) :
    b.fetchFor request = (b.buildWith (b.tell request) body).mapError .network := by
  simp only [Builder.fetchFor, h]

end FetchFor

theorem cookies_iff (withCredentials : Bool) :
    (if withCredentials then CookieMode.always else .sameOrigin) = .always ↔
      withCredentials = true := by
  cases withCredentials <;> simp

section Build

variable {β : Type} {b : Builder β} {told : β → Fetch} {resolve : String → Option String}
  (hb : Documented b told resolve)

include hb

theorem told_headers (headers : List (String × String)) (f : β)
    (hnames : DistinctNames ((told f).headers ++ headers))
    (hverbatim : ∀ h ∈ headers, Verbatim h.1 h.2) :
    told (headers.foldl (fun f header => b.withHeader f header.1 header.2) f) =
      { told f with headers := (told f).headers ++ headers } := by
  induction headers generalizing f with
  | nil => rw [List.foldl_nil, List.append_nil]
  | cons header rest ih =>
    obtain ⟨hfirst, hothers⟩ := List.forall_mem_cons.mp hverbatim
    have hnew : ∀ other ∈ (told f).headers, Text.sameIgnoringCase other.1 header.1 = false :=
      fun other hother =>
        (List.pairwise_append.mp hnames).2.2 other hother header List.mem_cons_self
    have hwith := hb.header f header.1 header.2 hfirst hnew
    rw [List.append_cons] at hnames
    have hrest := ih (b.withHeader f header.1 header.2) (by rwa [hwith]) hothers
    rw [hwith, List.append_assoc] at hrest
    exact hrest

theorem told_tell {request : Request} (h : Plain request) :
    told (b.tell request) =
      ⟨request.method, request.url, if request.withCredentials then .always else .sameOrigin,
        request.headers, none⟩ := by
  let begun := b.start request.method request.url
  have hallowed : told (if request.withCredentials then b.withCookies begun else begun) =
      ⟨request.method, request.url, if request.withCredentials then .always else .sameOrigin, [],
        none⟩ := by
    cases request.withCredentials with
    | true =>
      have hcookies := hb.cookies begun
      rw [hb.start] at hcookies
      exact hcookies
    | false => exact hb.start request.method request.url
  have htold := told_headers hb request.headers
    (if request.withCredentials then b.withCookies begun else begun)
    (by rw [hallowed]; exact h.names) h.headers
  rw [hallowed] at htold
  exact htold

/-- What a browser is asked for is what the request says, at the address that its text is. -/
theorem fetchFor_of_resolved {request : Request} (h : Plain request) {url : String}
    (hurl : resolve request.url = some url) (hsendable : ¬ Refused request) :
    ∃ fetch, b.fetchFor request = .ok fetch ∧ SaysAt url request fetch := by
  have htold := told_tell hb h
  have hresolve : resolve (told (b.tell request)).url = some url := by rw [htold]; exact hurl
  cases hbody : request.body with
  | none =>
    have hbuilt := hb.build (b.tell request) url hresolve
    rw [htold] at hbuilt
    refine ⟨_, by rw [fetchFor_of_none b hbody, hbuilt]; rfl, ?_⟩
    exact ⟨rfl, rfl, rfl, hbody.symm, cookies_iff _⟩
  | some body =>
    have hmethod : (told (b.tell request)).method ≠ .get := by
      rw [htold]
      exact fun hget => hsendable ⟨hget, by rw [hbody]; rfl⟩
    have hkind : NamesBody (told (b.tell request)).headers := by
      rw [htold]
      exact h.kind (by rw [hbody]; rfl)
    have hbuilt := hb.buildWith (b.tell request) url body hresolve hmethod hkind
    rw [htold] at hbuilt
    refine ⟨_, by rw [fetchFor_of_some b hbody, hbuilt]; rfl, ?_⟩
    exact ⟨rfl, rfl, rfl, hbody.symm, cookies_iff _⟩

/-- Nothing is fetched without an address, or with a body that does not go along. -/
theorem fetchFor_of_unresolved {request : Request} (h : Plain request)
    (hbad : resolve request.url = none ∨ Refused request) :
    ∃ message, b.fetchFor request = .error (.network message) := by
  have htold := told_tell hb h
  rcases hbad with hurl | ⟨hget, hbody⟩
  · have hresolve : resolve (told (b.tell request)).url = none := by rw [htold]; exact hurl
    obtain ⟨⟨message, hbuild⟩, hbuildWith⟩ := hb.unresolved (b.tell request) hresolve
    cases hbody : request.body with
    | none => exact ⟨message, by rw [fetchFor_of_none b hbody, hbuild]; rfl⟩
    | some body =>
      obtain ⟨message', hfails⟩ := hbuildWith body
      exact ⟨message', by rw [fetchFor_of_some b hbody, hfails]; rfl⟩
  · obtain ⟨body, hbody⟩ := Option.isSome_iff_exists.mp hbody
    obtain ⟨message, hfails⟩ := hb.refused (b.tell request) body (by rw [htold]; exact hget)
    exact ⟨message, by rw [fetchFor_of_some b hbody, hfails]; rfl⟩

end Build

end AccountPortal.Backend
