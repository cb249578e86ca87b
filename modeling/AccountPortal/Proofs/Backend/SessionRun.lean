import AccountPortal.Backend.Session

/-!
Sessions over any wire, however the wire remembers. An operation asks the backend for
one thing or for nothing. If it asks, then the request that would be built at that
moment is sent once, and what the operation comes to is decided by the reply to it;
otherwise the wire is not touched. So a session may be cut anywhere: a new client on
the store that the first one left goes on as the first one would have.
-/
namespace AccountPortal.Backend.SessionRun

open Form Http Cookie

inductive Turn where
  | operation (op : Operation)
  | setCookies (jar : Jar)

/-- An operation as it took place, with the store and the wire that it found and left. -/
structure Entry (σ : Type) where
  op : Operation
  jar : Jar
  state : σ
  step : Step
  jarAfter : Jar
  stateAfter : σ

structure Transcript (σ : Type) where
  entries : List (Entry σ)
  jar : Jar
  state : σ

section Session

variable {σ : Type} (base : Base) (wire : Wire σ)

def enter (state : σ) (jar : Jar) (op : Operation) : Entry σ :=
  let (step, jarAfter, stateAfter) := op.run base wire state jar
  ⟨op, jar, state, step, jarAfter, stateAfter⟩

def session : σ → Jar → List Turn → Transcript σ
  | state, jar, [] => ⟨[], jar, state⟩
  | state, jar, .operation op :: rest =>
    let entry := enter base wire state jar op
    let later := session entry.stateAfter entry.jarAfter rest
    { later with entries := entry :: later.entries }
  | state, _, .setCookies jar :: rest => session state jar rest

theorem session_append (state : σ) (jar : Jar) (left right : List Turn) :
    let first := session base wire state jar left
    let second := session base wire first.state first.jar right
    session base wire state jar (left ++ right) =
      { second with entries := first.entries ++ second.entries } := by
  induction left generalizing state jar with
  | nil => rfl
  | cons turn rest ih =>
    cases turn with
    | operation op => simp only [List.cons_append, session, ih]
    | setCookies other => simp only [List.cons_append, session, ih]

/-- Nothing is an entry of a session but what an operation did where it found itself. -/
theorem eq_enter_of_mem (state : σ) (jar : Jar) (turns : List Turn) (e : Entry σ)
    (h : e ∈ (session base wire state jar turns).entries) :
    e = enter base wire e.state e.jar e.op := by
  induction turns generalizing state jar with
  | nil => simp [session] at h
  | cons turn rest ih =>
    cases turn with
    | operation op =>
      simp only [session, List.mem_cons] at h
      rcases h with rfl | h
      · rfl
      · exact ih _ _ h
    | setCookies other => exact ih state other h

end Session

/-- What an operation asks the backend for, if anything: the method, the path of the
endpoint, and the body. -/
def demand : Operation → Option (Method × String × Option String)
  | .buildRequest _ _ _ => none
  | .request method path body => some (method, path, body)
  | .get path _ => some (.get, path, none)
  | .upload .post path (some body) _ => some (.post, path, some body.compact)
  | .upload .put path (some body) _ => some (.put, path, some body.compact)
  | .upload .patch path (some body) _ => some (.patch, path, some body.compact)
  | .upload _ _ none _ => none
  | .delete path => some (.delete, path, none)
  | .logout => some (.post, "/auth/logout/", none)
  | .bootstrap => some (.get, "/auth/me/", none)
  | .currentUser => some (.get, "/auth/me/", none)
  | .login credentials => some (.post, "/auth/login/", some credentials.json.compact)
  | .register registration => some (.post, "/auth/register/", some registration.json.compact)
  | .submitLogin credentials => some (.post, "/auth/login/", some credentials.json.compact)
  | .registerAccount registration =>
    some (.post, "/auth/register/", some registration.json.compact)
  | .signup form =>
    match form.validate with
    | .ok registration => some (.post, "/auth/register/", some registration.json.compact)
    | .error _ => none
  | .loadDashboard => some (.get, "/auth/me/", none)
  | .signOut => some (.post, "/auth/logout/", none)

/-- The operations that do not reach the backend. -/
inductive Silent : Operation → Prop
  | building (method : Method) (path : String) (body : Option String) :
    Silent (.buildRequest method path body)
  /-- A body that has no text. -/
  | unwritable (kind : Upload) (path : String) (expected : Expected) :
    Silent (.upload kind path none expected)
  | violating (form : SignupForm) (rule : SignupRule) (h : form.validate = .error rule) :
    Silent (.signup form)

theorem silent_iff (op : Operation) : Silent op ↔ demand op = none := by
  constructor
  · intro h
    cases h with
    | building method path body => rfl
    | unwritable kind path expected => cases kind <;> rfl
    | violating form rule h => simp only [demand, h]
  · intro h
    cases op with
    | buildRequest method path body => exact .building method path body
    | upload kind path body expected =>
      cases body with
      | none => exact .unwritable kind path expected
      | some v => cases kind <;> simp [demand] at h
    | signup form =>
      cases hform : form.validate with
      | ok registration => simp [demand, hform] at h
      | error rule => exact .violating form rule hform
    | _ => simp [demand] at h

theorem plan_demand (op : Operation) :
    (∃ x, op.plan = .exchange x ∧ demand op = some (x.method, x.path, x.body)) ∨
    (∃ answer, op.plan = .immediate answer ∧ demand op = none) := by
  cases op with
  | buildRequest method path body => exact Or.inr ⟨_, rfl, rfl⟩
  | upload kind path body expected =>
    cases body with
    | none => exact Or.inr ⟨_, rfl, by cases kind <;> rfl⟩
    | some v => exact Or.inl ⟨_, rfl, by cases kind <;> rfl⟩
  | signup form =>
    cases h : form.validate with
    | ok registration =>
      refine Or.inl ⟨(registerAccount registration).map .signup, ?_, ?_⟩
      · simp only [Operation.plan, h]
      · simp only [demand, h]
        rfl
    | error rule =>
      refine Or.inr ⟨fun _ _ => .violated rule, ?_, ?_⟩
      · simp only [Operation.plan, h]
      · simp only [demand, h]
  | _ => exact Or.inl ⟨_, rfl, rfl⟩

/-- An operation that asks for nothing is answered from the store alone. -/
theorem run_of_silent {op : Operation} (h : demand op = none) :
    ∃ answer : Base → Jar → Answer,
      ∀ {σ : Type} (base : Base) (wire : Wire σ) (state : σ) (jar : Jar),
        op.run base wire state jar = (⟨answer base jar, [], []⟩, jar, state) := by
  rcases plan_demand op with ⟨x, _, hdemand⟩ | ⟨answer, hplan, _⟩
  · rw [h] at hdemand
    cases hdemand
  · refine ⟨answer, ?_⟩
    intro σ base wire state jar
    simp only [Operation.run, hplan]

/-- An operation that asks for something uses the wire once, and its answer and its log
follow from what it met there. -/
theorem run_of_demand {op : Operation} {method : Method} {path : String} {body : Option String}
    (h : demand op = some (method, path, body)) :
    ∃ conclude : Outcome → Jar → Answer × List LogLine,
      ∀ {σ : Type} (base : Base) (wire : Wire σ) (state : σ) (jar : Jar),
        let request := buildRequest base jar method path body
        let reply := wire state request jar
        let end_ := conclude reply.1 reply.2.1
        op.run base wire state jar =
          (⟨end_.1, [request], ⟨.debug, method.name ++ " " ++ base.endpoint path⟩ :: end_.2⟩,
            reply.2.1, reply.2.2) := by
  rcases plan_demand op with ⟨x, hplan, hdemand⟩ | ⟨_, _, hdemand⟩
  · rw [h] at hdemand
    obtain ⟨rfl, rfl, rfl⟩ : method = x.method ∧ path = x.path ∧ body = x.body := by
      simpa using hdemand
    refine ⟨x.conclude, ?_⟩
    intro σ base wire state jar
    simp only [Operation.run, hplan, Exchange.perform, Exchange.request, Exchange.announcement]
  · rw [h] at hdemand
    cases hdemand

def met {σ : Type} (wire : Wire σ) (state : σ) (r : Request) (jar : Jar) : Outcome × Jar :=
  ((wire state r jar).1, (wire state r jar).2.1)

structure Lawful {σ : Type} (base : Base) (wire : Wire σ) (e : Entry σ) : Prop where
  /-- There is no second try. -/
  once : e.step.sent.length ≤ 1
  silent : e.step.sent = [] ↔ Silent e.op
  /-- Where nothing is sent, nothing is logged, the wire is left alone, and so is the store. -/
  untouched : Silent e.op → e.step.log = [] ∧ e.jarAfter = e.jar ∧ e.stateAfter = e.state
  unwritable : ∀ kind path expected, e.op = .upload kind path none expected →
    e.step.answer = .decoded (.error (.encode "key must be a string"))
  violating : ∀ form rule, e.op = .signup form → form.validate = .error rule →
    e.step.answer = .violated rule
  /-- What is sent is what would be built at that moment, and the wire carries it once. -/
  request : ∀ method path body, demand e.op = some (method, path, body) →
    ∃ r, (Operation.buildRequest method path body).run base wire e.state e.jar =
        (⟨.request r, [], []⟩, e.jar, e.state) ∧
      r.method = method ∧ r.url = base.endpoint path ∧ r.body = body ∧
      e.step.sent = [r] ∧ (e.jarAfter, e.stateAfter) = (wire e.state r e.jar).2
  /-- On any other wire that gives the same reply the same happens. -/
  reply : ∀ (τ : Type) (other : Wire τ) (s : τ),
    (∀ r ∈ e.step.sent, met other s r e.jar = met wire e.state r e.jar) →
    (e.op.run base other s e.jar).1 = e.step ∧ (e.op.run base other s e.jar).2.1 = e.jarAfter

section Enter

variable {σ : Type} (base : Base) (wire : Wire σ) (state : σ) (jar : Jar)

theorem answer_unwritable (kind : Upload) (path : String) (expected : Expected) :
    (enter base wire state jar (.upload kind path none expected)).step.answer =
      .decoded (.error (.encode "key must be a string")) := rfl

theorem answer_violating {form : SignupForm} {rule : SignupRule} (h : form.validate = .error rule) :
    (enter base wire state jar (.signup form)).step.answer = .violated rule := by
  simp only [enter, Operation.run, Operation.plan, h]

theorem lawful_of_silent {op : Operation} (h : demand op = none) :
    Lawful base wire (enter base wire state jar op) := by
  obtain ⟨answer, hrun⟩ := run_of_silent h
  have hsilent : Silent op := (silent_iff op).mpr h
  refine {
    once := by simp [enter, hrun]
    silent := by simp [enter, hrun, hsilent]
    untouched := fun _ => by simp [enter, hrun]
    unwritable := ?_
    violating := ?_
    request := ?_
    reply := fun τ other s _ => by simp [enter, hrun]
  }
  · rintro kind path expected rfl
    exact answer_unwritable base wire state jar kind path expected
  · rintro form rule rfl hrule
    exact answer_violating base wire state jar hrule
  · intro method path body hdemand
    exact absurd (h.symm.trans hdemand) (by simp)

theorem lawful_of_demand {op : Operation} {method : Method} {path : String}
    {body : Option String} (h : demand op = some (method, path, body)) :
    Lawful base wire (enter base wire state jar op) := by
  obtain ⟨conclude, hrun⟩ := run_of_demand h
  have hsilent : ¬ Silent op := by
    intro hop
    have hnone := (silent_iff op).mp hop
    simp [h] at hnone
  refine {
    once := by simp [enter, hrun]
    silent := by simp [enter, hrun, hsilent]
    untouched := fun hop => absurd hop hsilent
    unwritable := ?_
    violating := ?_
    request := ?_
    reply := ?_
  }
  · rintro kind path expected rfl
    exact answer_unwritable base wire state jar kind path expected
  · rintro form rule rfl hrule
    exact answer_violating base wire state jar hrule
  · intro method' path' body' hdemand
    obtain ⟨rfl, rfl, rfl⟩ : method = method' ∧ path = path' ∧ body = body' := by
      simpa [enter, h] using hdemand
    refine ⟨buildRequest base jar method path body, rfl, rfl, rfl, rfl, ?_, ?_⟩
    · simp [enter, hrun]
    · simp [enter, hrun]
  · intro τ other s hreply
    have hmet := hreply (buildRequest base jar method path body) (by simp [enter, hrun])
    obtain ⟨houtcome, hjar⟩ := Prod.mk.inj hmet
    simp only [enter, hrun] at houtcome hjar ⊢
    simp only [houtcome, hjar, and_self]

theorem lawful_enter (op : Operation) : Lawful base wire (enter base wire state jar op) := by
  cases h : demand op with
  | none => exact lawful_of_silent base wire state jar h
  | some asked => exact lawful_of_demand base wire state jar h

end Enter

/-- A wire that gives prepared replies in order, each with the store after it. -/
def prepared : Wire (List (Outcome × Jar))
  | [], _, jar => (Recorder.exhausted, jar, [])
  | (outcome, jar) :: rest, _, _ => (outcome, jar, rest)

section Replies

variable {σ : Type} (base : Base) (wire : Wire σ)

def repliesOf (e : Entry σ) : List (Outcome × Jar) :=
  e.step.sent.map fun r => met wire e.state r e.jar

def replies (entries : List (Entry σ)) : List (Outcome × Jar) :=
  entries.flatMap (repliesOf wire)

theorem replies_cons (e : Entry σ) (entries : List (Entry σ)) :
    replies wire (e :: entries) = repliesOf wire e ++ replies wire entries := rfl

theorem enter_prepared (state : σ) (jar : Jar) (op : Operation) (rest : List (Outcome × Jar)) :
    let old := enter base wire state jar op
    let new := enter base prepared (repliesOf wire old ++ rest) jar op
    new.step = old.step ∧ new.jarAfter = old.jarAfter ∧ new.stateAfter = rest := by
  cases hdemand : demand op with
  | none =>
    obtain ⟨answer, hrun⟩ := run_of_silent hdemand
    simp [enter, repliesOf, hrun]
  | some asked =>
    obtain ⟨method, path, body⟩ := asked
    obtain ⟨conclude, hrun⟩ := run_of_demand hdemand
    simp [enter, repliesOf, met, prepared, hrun]

/-- A new client that is given the replies of a session goes through its steps. -/
theorem session_prepared (state : σ) (jar : Jar) (turns : List Turn)
    (rest : List (Outcome × Jar)) :
    let old := session base wire state jar turns
    let new := session base prepared (replies wire old.entries ++ rest) jar turns
    new.entries.map (·.step) = old.entries.map (·.step) ∧ new.jar = old.jar ∧
      new.state = rest := by
  induction turns generalizing state jar with
  | nil => exact ⟨rfl, rfl, rfl⟩
  | cons turn turns ih =>
    cases turn with
    | operation op =>
      let e := enter base wire state jar op
      let later := replies wire (session base wire e.stateAfter e.jarAfter turns).entries ++ rest
      obtain ⟨hstep, hafter, hleft⟩ := enter_prepared base wire state jar op later
      obtain ⟨hsteps, hjar, hstate⟩ := ih e.stateAfter e.jarAfter
      simp only [session, replies_cons, List.append_assoc, List.map_cons]
      rw [hleft, hafter, hstep]
      exact ⟨congrArg _ hsteps, hjar, hstate⟩
    | setCookies other => exact ih state other

end Replies

/-- A session over any wire, cut at any point. Every operation sends at most one
request, the one that would be built at its moment, and comes to what its own reply
makes of it. A new client on the store at the cut, over a new wire with the replies to
come, does what the first client goes on to do, and it uses up just those replies. -/
theorem session_stepwise {σ : Type} (base : Base) (wire : Wire σ) (state : σ) (jar : Jar)
    (before after : List Turn) (others : List (Outcome × Jar)) :
    let whole := session base wire state jar (before ++ after)
    let first := session base wire state jar before
    let second := session base wire first.state first.jar after
    let fresh := session base prepared (replies wire second.entries ++ others) first.jar after
    (∀ e ∈ whole.entries, Lawful base wire e) ∧
    whole.entries = first.entries ++ second.entries ∧ whole.jar = second.jar ∧
    fresh.entries.map (·.step) = second.entries.map (·.step) ∧
    fresh.jar = second.jar ∧ fresh.state = others := by
  intro whole first second fresh
  have hwhole : whole = { second with entries := first.entries ++ second.entries } :=
    session_append base wire state jar before after
  refine ⟨?_, by rw [hwhole], by rw [hwhole], ?_⟩
  · intro e he
    rw [eq_enter_of_mem base wire state jar (before ++ after) e he]
    exact lawful_enter base wire e.state e.jar e.op
  · exact session_prepared base wire first.state first.jar after others

end AccountPortal.Backend.SessionRun
