import AccountPortal.Proofs.Backend.Building
import AccountPortal.Proofs.Backend.SessionRun
import AccountPortal.Proofs.Backend.Submitted
import AccountPortal.Proofs.Backend.Verdict

/-!
A browser carries requests like a recorder that has the same replies ready. A request
that cannot be built does not go out, and any other is fetched once, whatever the builder
is. The requests of a client have distinct header names and name the kind of their
bodies, so they are fetched as they stand if they have an address, no body goes with
`GET`, and the token is one that a browser keeps as it is.
-/
namespace AccountPortal.Backend.Fetching

open Http Cookie SessionRun

/-- A request in a browser with any builder. It is built or not, and if it is then it is
fetched once and its status counts, even if the body cannot be read. -/
structure Carried {β σ : Type} (b : Builder β) (network : Network σ) (t : Traffic σ)
    (request : Request) (jar : Jar) : Prop where
  unbuilt : ∀ failure, b.fetchFor request = .error failure →
    network.browserWire b t request jar = (.error failure, jar, t)
  once : ∀ fetch, b.fetchFor request = .ok fetch →
    let reply := network t.network fetch.request jar
    (network.browserWire b t request jar).2 =
      (reply.2.1, ⟨t.requests ++ [fetch.request], reply.2.2⟩)
  answered : ∀ fetch status body, b.fetchFor request = .ok fetch →
    (network t.network fetch.request jar).1 = .answered status body →
    (network.browserWire b t request jar).1 = .ok ⟨status, body.getD ""⟩
  /-- There is no other failure than one to build the request or to send it. -/
  failed : ∀ failure, (network.browserWire b t request jar).1 = .error failure →
    ∃ message, failure = .network message ∧
      (b.fetchFor request = .error (.network message) ∨
        ∃ fetch, b.fetchFor request = .ok fetch ∧
          (network t.network fetch.request jar).1 = .failed message)

def atAddress (resolve : String → Option String) (r : Request) : Request :=
  { r with url := (resolve r.url).getD r.url }

/-- A wire that takes every request as it is, at its address. -/
def directWire {σ : Type} (resolve : String → Option String) (network : Network σ) :
    Wire (Traffic σ) :=
  fun t request jar => network.meet t (atAddress resolve request) jar

/-- A request that a browser takes as it stands. -/
structure Buildable (resolve : String → Option String) (r : Request) : Prop where
  address : (resolve r.url).isSome = true
  sendable : ¬ Refused r
  headers : ∀ h ∈ r.headers, Verbatim h.1 h.2

section Carry

variable {β σ : Type} (b : Builder β) (network : Network σ) (t : Traffic σ) (request : Request)
  (jar : Jar)

theorem browserWire_of_error {failure : Failure} (h : b.fetchFor request = .error failure) :
    network.browserWire b t request jar = (.error failure, jar, t) := by
  simp only [Network.browserWire, h]

theorem browserWire_of_ok {fetch : Fetch} (h : b.fetchFor request = .ok fetch) :
    network.browserWire b t request jar = network.meet t fetch.request jar := by
  simp only [Network.browserWire, h]

theorem fetchFor_error {failure : Failure} (h : b.fetchFor request = .error failure) :
    ∃ message, failure = .network message := by
  obtain ⟨built, hbuilt⟩ : ∃ built : Except String Fetch,
      b.fetchFor request = built.mapError .network := ⟨_, rfl⟩
  rw [hbuilt] at h
  cases built with
  | ok fetch => cases h
  | error message => exact ⟨message, (Except.error.inj h).symm⟩

theorem carried : Carried b network t request jar := by
  refine {
    unbuilt := fun failure h => browserWire_of_error b network t request jar h
    once := fun fetch h => by rw [browserWire_of_ok b network t request jar h]; rfl
    answered := ?_
    failed := ?_ }
  · intro fetch status body h hanswered
    rw [browserWire_of_ok b network t request jar h]
    simp only [Network.meet, hanswered, Fetched.outcome]
  · intro failure hfailure
    cases h : b.fetchFor request with
    | error refusal =>
      rw [browserWire_of_error b network t request jar h] at hfailure
      obtain rfl := Except.error.inj hfailure
      obtain ⟨message, rfl⟩ := fetchFor_error b request h
      exact ⟨message, rfl, Or.inl rfl⟩
    | ok fetch =>
      rw [browserWire_of_ok b network t request jar h] at hfailure
      simp only [Network.meet] at hfailure
      cases hfetched : (network t.network fetch.request jar).1 with
      | failed message =>
        rw [hfetched] at hfailure
        exact ⟨message, (Except.error.inj hfailure).symm, Or.inr ⟨fetch, rfl, hfetched⟩⟩
      | answered status body =>
        rw [hfetched] at hfailure
        cases hfailure

variable {b request} {told : β → Fetch} {resolve : String → Option String}

/-- What a browser takes as it stands goes the direct way. -/
theorem browserWire_eq (hb : Documented b told resolve) (hplain : Plain request)
    (h : Buildable resolve request) :
    network.browserWire b t request jar = directWire resolve network t request jar := by
  obtain ⟨url, hurl⟩ := Option.isSome_iff_exists.mp h.address
  obtain ⟨fetch, hbuilt, hsays⟩ := fetchFor_of_resolved hb hplain hurl h.sendable
  rw [browserWire_of_ok b network t request jar hbuilt, hsays.request_eq, directWire, atAddress,
    hurl, Option.getD_some]

end Carry

/-- Two wires give the same to every request of a kind, and stay in a relation. -/
def Alike {σ τ : Type} (kind : Request → Prop) (R : σ → τ → Prop) (wire : Wire σ)
    (other : Wire τ) : Prop :=
  ∀ s t, R s t → ∀ request, kind request → ∀ jar,
    met wire s request jar = met other t request jar ∧
    R (wire s request jar).2.2 (other t request jar).2.2

/-- Two sessions went through the same steps. -/
structure SameRun {σ τ : Type} (a : Transcript σ) (b : Transcript τ) : Prop where
  steps : a.entries.map (·.step) = b.entries.map (·.step)
  jar : a.jar = b.jar

def SendsOnly {σ : Type} (kind : Request → Prop) (a : Transcript σ) : Prop :=
  ∀ e ∈ a.entries, ∀ r ∈ e.step.sent, kind r

theorem sent_enter {σ : Type} (base : Base) (wire : Wire σ) (state : σ) (jar : Jar)
    (op : Operation) :
    (enter base wire state jar op).step.sent =
      (demand op).toList.map fun (method, path, body) => buildRequest base jar method path body := by
  cases hdemand : demand op with
  | none =>
    obtain ⟨answer, hrun⟩ := run_of_silent hdemand
    simp [enter, hrun]
  | some asked =>
    obtain ⟨method, path, body⟩ := asked
    obtain ⟨conclude, hrun⟩ := run_of_demand hdemand
    simp [enter, hrun]

section Alike

variable {σ τ : Type} {kind : Request → Prop} {R : σ → τ → Prop} {wire : Wire σ} {other : Wire τ}
  (halike : Alike kind R wire other) (base : Base)

include halike

theorem enter_alike {s : σ} {t : τ} (hR : R s t) (jar : Jar) (op : Operation)
    (hkind : ∀ r ∈ (enter base other t jar op).step.sent, kind r) :
    (enter base wire s jar op).step = (enter base other t jar op).step ∧
    (enter base wire s jar op).jarAfter = (enter base other t jar op).jarAfter ∧
    R (enter base wire s jar op).stateAfter (enter base other t jar op).stateAfter := by
  rw [sent_enter] at hkind
  cases hdemand : demand op with
  | none =>
    obtain ⟨answer, hrun⟩ := run_of_silent hdemand
    simp only [enter, hrun]
    exact ⟨trivial, trivial, hR⟩
  | some asked =>
    obtain ⟨method, path, body⟩ := asked
    obtain ⟨conclude, hrun⟩ := run_of_demand hdemand
    have hrequest := hkind (buildRequest base jar method path body) (by simp [hdemand])
    obtain ⟨hmet, hafter⟩ := halike s t hR _ hrequest jar
    obtain ⟨houtcome, hjar⟩ := Prod.mk.inj hmet
    simp only [enter, hrun, houtcome, hjar]
    exact ⟨trivial, trivial, hafter⟩

theorem session_alike {s : σ} {t : τ} (hR : R s t) (jar : Jar) (turns : List Turn)
    (hkind : SendsOnly kind (session base other t jar turns)) :
    SameRun (session base wire s jar turns) (session base other t jar turns) ∧
    R (session base wire s jar turns).state (session base other t jar turns).state := by
  induction turns generalizing s t jar with
  | nil => exact ⟨⟨rfl, rfl⟩, hR⟩
  | cons turn rest ih =>
    cases turn with
    | operation op =>
      obtain ⟨hfirst, hothers⟩ := List.forall_mem_cons.mp hkind
      obtain ⟨hstep, hjar, hafter⟩ := enter_alike halike base hR jar op hfirst
      obtain ⟨hsame, hstate⟩ := ih hafter (enter base other t jar op).jarAfter hothers
      simp only [session, hjar]
      refine ⟨⟨?_, hsame.jar⟩, hstate⟩
      simp only [List.map_cons, hstep, hsame.steps]
    | setCookies changed => exact ih hR changed hkind

end Alike

theorem plain_buildRequest {base : Base} {jar : Jar} {method : Method} {path : String}
    {body : Option String}
    (h : ∀ h ∈ (buildRequest base jar method path body).headers, Verbatim h.1 h.2) :
    Plain (buildRequest base jar method path body) where
  names := by
    have hnames : Text.sameIgnoringCase "Content-Type" csrfHeader = false := by decide
    change DistinctNames (headersFor jar.token?)
    cases jar.token? with
    | none => exact List.pairwise_singleton _ _
    | some t => simpa [DistinctNames, headersFor] using hnames
  headers := h
  kind _ := ⟨("Content-Type", "application/json"), List.mem_cons_self, by decide⟩

/-- A client sends nothing but plain requests, if a browser keeps their headers. -/
theorem plain_of_sendsOnly {σ : Type} {base : Base} {wire : Wire σ} {state : σ} {jar : Jar}
    {turns : List Turn} {resolve : String → Option String}
    (h : SendsOnly (Buildable resolve) (session base wire state jar turns)) :
    SendsOnly (fun r => Plain r ∧ Buildable resolve r) (session base wire state jar turns) := by
  intro e he r hr
  have hbuildable := h e he r hr
  rw [eq_enter_of_mem base wire state jar turns e he, sent_enter] at hr
  obtain ⟨⟨method, path, body⟩, -, rfl⟩ := List.mem_map.mp hr
  exact ⟨plain_buildRequest hbuildable.headers, hbuildable⟩

/-- A recorder notes what goes out at its address, and has the rest of the replies ready. -/
structure Records (resolve : String → Option String) (setCookies : Option String)
    (t : Traffic (List Fetched)) (r : Recorder) : Prop where
  requests : t.requests = r.requests.map (atAddress resolve)
  outcomes : r.outcomes = t.network.map Fetched.outcome
  setCookies : r.setCookies = setCookies

section Wires

variable {β : Type} {b : Builder β} {told : β → Fetch} {resolve : String → Option String}
  (hb : Documented b told resolve)

include hb

theorem alike_direct {σ : Type} (network : Network σ) :
    Alike (fun r => Plain r ∧ Buildable resolve r) Eq (network.browserWire b)
      (directWire resolve network) := by
  rintro t _ rfl request ⟨hplain, hbuildable⟩ jar
  have hwire := browserWire_eq network t jar hb hplain hbuildable
  simp only [met, hwire, and_self]

theorem alike_recorder (setCookies : Option String) :
    Alike (fun r => Plain r ∧ Buildable resolve r) (Records resolve setCookies)
      ((Network.prepared setCookies).browserWire b) Recorder.wire := by
  rintro ⟨sent, replies⟩ ⟨requests, outcomes, cookies⟩ hR request ⟨hplain, hbuildable⟩ jar
  obtain ⟨hrequests, houtcomes, hcookies⟩ := hR
  simp only at hrequests houtcomes hcookies
  subst hrequests houtcomes hcookies
  have hwire := browserWire_eq (Network.prepared cookies)
    ⟨requests.map (atAddress resolve), replies⟩ jar hb hplain hbuildable
  simp only [met, hwire]
  cases replies with
  | nil => exact ⟨rfl, by simp [directWire, Network.meet, Network.prepared, Recorder.wire], rfl, rfl⟩
  | cons reply rest =>
    exact ⟨rfl, by simp [directWire, Network.meet, Network.prepared, Recorder.wire], rfl, rfl⟩

end Wires

/-- What operations come to when the body of the reply cannot be read. -/
structure Unreadable (base : Base) {σ : Type} (wire : Wire σ) (s : σ) (jar : Jar)
    (status : Nat) : Prop where
  login : Success status → ∀ credentials,
    ((Operation.submitLogin credentials).run base wire s jar).1.answer =
      .login (.redirect .dashboard)
  register : Success status → ∀ registration,
    ((Operation.registerAccount registration).run base wire s jar).1.answer =
      .signup (.redirect .login "Account created successfully! Please log in.")
  account : (Operation.loadDashboard.run base wire s jar).1.answer = .load .signedOut

theorem decode_empty : ∃ e, Json.decode CurrentUser.read "" = .error e := ⟨_, rfl⟩

section Unreadable

variable (base : Base) {σ : Type} (wire : Wire σ) (s : σ) (jar : Jar) (status : Nat)

theorem unreadable_of_empty
    (hpost : ∀ path ∈ [loginPath, registerPath], ∀ body,
      (wire s (buildRequest base jar .post path (some body)) jar).1 = .ok ⟨status, ""⟩)
    (hget : (wire s (buildRequest base jar .get mePath none) jar).1 = .ok ⟨status, ""⟩) :
    Unreadable base wire s jar status := by
  have haccepted (hs : Success status) : accepted (.ok ⟨status, ""⟩) = .ok ⟨status, ""⟩ :=
    accepted_of_success hs
  refine ⟨?_, ?_, ?_⟩
  · intro hs credentials
    let request := buildRequest base jar .post loginPath (some credentials.json.compact)
    have hmet := hpost loginPath (by simp) credentials.json.compact
    have hconclude := submitLogin_conclude (wire s request jar).1 (wire s request jar).2.1
      credentials
    rw [hmet, haccepted hs, ← hmet] at hconclude
    exact congrArg Answer.login hconclude
  · intro hs registration
    let request := buildRequest base jar .post registerPath (some registration.json.compact)
    have hmet := hpost registerPath (by simp) registration.json.compact
    have hconclude := registerAccount_conclude (wire s request jar).1 (wire s request jar).2.1
      registration
    rw [hmet, haccepted hs, ← hmet] at hconclude
    exact congrArg Answer.signup hconclude
  · let request := buildRequest base jar .get mePath none
    have hnone : (loadDashboard.conclude (wire s request jar).1
        (wire s request jar).2.1).1 = .signedOut := by
      cases hload : (loadDashboard.conclude (wire s request jar).1 (wire s request jar).2.1).1 with
      | signedOut => rfl
      | ready current =>
        obtain ⟨response, hresponse, _, hdecode⟩ := (loadDashboard_ready_iff _ _ current).mp hload
        obtain ⟨e, hempty⟩ := decode_empty
        rw [hget] at hresponse
        cases hresponse
        rw [hempty] at hdecode
        cases hdecode
    exact congrArg Answer.load hnone

end Unreadable

/-- Whether a browser keeps the token of a store as the value of its header. -/
def PlainToken (jar : Jar) : Prop :=
  ∀ token, jar.get? "csrftoken" = some token → Verbatim "X-CSRFToken" token

theorem verbatim_headersFor {jar : Jar} (h : PlainToken jar) :
    ∀ header ∈ headersFor jar.token?, Verbatim header.1 header.2 := by
  intro header hmem
  rw [Dialogue.headersFor_eq, List.mem_cons, Option.mem_toList, Option.map_eq_some_iff] at hmem
  rcases hmem with rfl | ⟨token, htoken, rfl⟩
  · exact verbatim_contentType
  · exact h token htoken

theorem verbatim_token : Verbatim "X-CSRFToken" "t" := by decide +kernel

end AccountPortal.Backend.Fetching
