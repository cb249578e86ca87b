import AccountPortal.Backend.Flow

/-!
What the outcome of a request makes of a call. A failure and a status outside the
successes are passed on by every call. A success is final for the calls that can
do without the body; the others may still find the body not to be of the form
that they expect. What the pages do with a call follows from this.
-/
namespace AccountPortal.Backend

open Http Cookie

/-- The statuses of success. -/
def Success (status : Nat) : Prop := 200 ≤ status ∧ status ≤ 299

/-- A status of success came back. -/
def Succeeds (outcome : Outcome) : Prop :=
  ∃ response, outcome = .ok response ∧ Success response.status

theorem isSuccess_iff (response : Response) :
    response.isSuccess = true ↔ Success response.status := by
  simp only [Response.isSuccess, Success, Bool.and_eq_true, decide_eq_true_eq]
  rw [Nat.lt_succ_iff]

theorem accepted_of_success {response : Response} (h : Success response.status) :
    accepted (.ok response) = .ok response :=
  if_pos ((isSuccess_iff response).mpr h)

/-- A success is read. -/
theorem accepted_bind_of_success {α : Type} {response : Response} (h : Success response.status)
    (read : Response → Except Error α) : (accepted (.ok response) >>= read) = read response := by
  rw [accepted_of_success h]
  rfl

/-- The three ways in which a request ends. -/
theorem accepted_cases (outcome : Outcome) :
    (∃ failure, outcome = .error failure ∧ accepted outcome = .error (.transport failure)) ∨
    (∃ response, outcome = .ok response ∧ Success response.status ∧
      accepted outcome = .ok response) ∨
    ∃ code body, outcome = .ok ⟨code, body⟩ ∧ ¬ Success code ∧
      accepted outcome = .error (.status code (Complaint.parse body)) := by
  cases outcome with
  | error failure => exact Or.inl ⟨failure, rfl, rfl⟩
  | ok response =>
    by_cases h : response.isSuccess = true
    · exact Or.inr (Or.inl ⟨response, rfl, (isSuccess_iff response).mp h, if_pos h⟩)
    · exact Or.inr (Or.inr ⟨response.status, response.body, rfl,
        fun hs => h ((isSuccess_iff response).mpr hs), if_neg h⟩)

theorem succeeds_iff (outcome : Outcome) :
    Succeeds outcome ↔ ∃ response, accepted outcome = .ok response := by
  rcases accepted_cases outcome with ⟨failure, rfl, h⟩ | ⟨response, rfl, hs, h⟩ |
    ⟨code, body, rfl, hs, h⟩
  · simp [Succeeds, h]
  · simp [Succeeds, h, hs]
  · simp [Succeeds, h, hs]

/-- What an exchange yields, given its outcome and the store at that time. -/
def Exchange.result {β : Type} (x : Exchange β) (outcome : Outcome) (jar : Jar) : β :=
  (x.conclude outcome jar).1

/-- The result of a call says what became of the request: that it failed, that a
status other than of success came back, or that a success was looked into. -/
structure Judged {α : Type} (outcome : Outcome) (result : Except Error α) : Prop where
  transport : ∀ failure, result = .error (.transport failure) ↔ outcome = .error failure
  status : ∀ code complaint, result = .error (.status code complaint) ↔
    ∃ body, outcome = .ok ⟨code, body⟩ ∧ ¬ Success code ∧ complaint = Complaint.parse body
  decoded : Succeeds outcome → (∃ a, result = .ok a) ∨ ∃ message, result = .error (.decode message)

/-- The same of a call that succeeds whatever the body of a success is. -/
structure Settled {α : Type} (outcome : Outcome) (result : Except Error α) : Prop
    extends Judged outcome result where
  succeeds : Succeeds outcome → ∃ a, result = .ok a

section Read

variable {α : Type} {read : Response → Except Error α} (outcome : Outcome)

theorem judged_of_read
    (hread : ∀ response, (∃ a, read response = .ok a) ∨
      ∃ message, read response = .error (.decode message)) :
    Judged outcome (accepted outcome >>= read) := by
  rcases accepted_cases outcome with ⟨failure, rfl, h⟩ | ⟨response, rfl, hs, h⟩ |
    ⟨code, body, rfl, hs, h⟩
  · have hresult : (accepted (.error failure) >>= read) = .error (.transport failure) := by
      rw [h]
      rfl
    rw [hresult]
    exact {
      transport := by simp
      status := by simp
      decoded := by simp [Succeeds] }
  · have hresult : (accepted (.ok response) >>= read) = read response := by
      rw [h]
      rfl
    have hdecoded := hread response
    rw [hresult]
    exact {
      transport := by
        intro failure
        rcases hdecoded with ⟨a, ha⟩ | ⟨message, ha⟩
        · simp [ha]
        · simp [ha]
      status := by
        intro code complaint
        constructor
        · intro hstatus
          rcases hdecoded with ⟨a, ha⟩ | ⟨message, ha⟩
          · simp [ha] at hstatus
          · simp [ha] at hstatus
        · rintro ⟨body, heq, hrefused, _⟩
          injection heq with heq
          rw [heq] at hs
          exact absurd hs hrefused
      decoded := fun _ => hdecoded }
  · have hresult : (accepted (.ok ⟨code, body⟩) >>= read) =
        .error (.status code (Complaint.parse body)) := by
      rw [h]
      rfl
    rw [hresult]
    exact {
      transport := by simp
      status := by
        intro other complaint
        constructor
        · intro heq
          injection heq with heq
          injection heq with hcode hcomplaint
          exact ⟨body, by rw [hcode], hcode ▸ hs, hcomplaint.symm⟩
        · rintro ⟨_, heq, _, rfl⟩
          injection heq with heq
          injection heq with hcode hbody
          rw [hcode, hbody]
      decoded := by simp [Succeeds, hs] }

theorem settled_of_read (hread : ∀ response, ∃ a, read response = .ok a) :
    Settled outcome (accepted outcome >>= read) where
  toJudged := judged_of_read outcome fun response => Or.inl (hread response)
  succeeds := by
    intro hs
    obtain ⟨response, haccepted⟩ := (succeeds_iff outcome).mp hs
    rw [haccepted]
    exact hread response

end Read

section Calls

variable (outcome : Outcome) (jar : Jar)

theorem raw_settled (method : Method) (path : String) (body : Option String) :
    Settled outcome ((Call.raw method path body).result outcome jar) :=
  settled_of_read outcome fun response => ⟨response, rfl⟩

theorem plain_settled (method : Method) (path : String) :
    Settled outcome ((Call.plain method path).result outcome jar) :=
  settled_of_read outcome fun _ => ⟨(), rfl⟩

theorem login_settled (credentials : Credentials) :
    Settled outcome ((login credentials).result outcome jar) := by
  apply settled_of_read outcome
  intro response
  cases Json.decode Receipt.shape.read response.body with
  | ok receipt => exact ⟨receipt, rfl⟩
  | error e => exact ⟨.empty, rfl⟩

theorem register_settled (registration : Registration) :
    Settled outcome ((register registration).result outcome jar) :=
  settled_of_read outcome fun _ => ⟨_, rfl⟩

theorem fetch_judged {α : Type} (method : Method) (path : String) (body : Option String)
    (read : List Char → Json.Read α) :
    Judged outcome ((Call.fetch method path body read).result outcome jar) := by
  apply judged_of_read outcome
  intro response
  unfold decodeBody
  split
  · exact Or.inl ⟨_, rfl⟩
  · exact Or.inr ⟨_, rfl⟩

end Calls

section Flows

variable (outcome : Outcome) (jar : Jar)

theorem login_conclude (credentials : Credentials) :
    (login credentials).conclude outcome jar =
      ((accepted outcome).map fun response =>
        (Json.decode Receipt.shape.read response.body).toOption.getD .empty, []) := by
  simp only [login, Call.of]
  cases accepted outcome with
  | ok response =>
    simp only [bind, Except.bind, Except.map]
    cases Json.decode Receipt.shape.read response.body with
    | ok receipt => rfl
    | error e => rfl
  | error e => rfl

theorem submitLogin_conclude (credentials : Credentials) :
    ((submitLogin credentials).conclude outcome jar).1 =
      match accepted outcome with
      | .ok _ => .redirect .dashboard
      | .error e => .failed e.loginMessage := by
  simp only [submitLogin, Exchange.andThen, login_conclude]
  cases accepted outcome with
  | ok response => rfl
  | error e => rfl

theorem register_conclude (registration : Registration) :
    (register registration).conclude outcome jar =
      ((accepted outcome).map fun response =>
        (Json.decode User.shape.read response.body).toOption, []) := by
  simp only [register, Call.of]
  cases accepted outcome with
  | ok response => rfl
  | error e => rfl

theorem registerAccount_conclude (registration : Registration) :
    ((registerAccount registration).conclude outcome jar).1 =
      match accepted outcome with
      | .ok _ => .redirect .login signupFlash
      | .error e => .failed e.signupMessage := by
  simp only [registerAccount, Exchange.andThen, register_conclude]
  cases accepted outcome with
  | ok response => rfl
  | error e => rfl

theorem loadDashboard_conclude :
    (loadDashboard.conclude outcome jar).1 =
      match accepted outcome >>= decodeBody CurrentUser.read with
      | .ok current => .ready current
      | .error _ => .signedOut := by
  simp only [loadDashboard, Exchange.andThen, currentUser, Call.fetch, Call.of]
  cases accepted outcome >>= decodeBody CurrentUser.read with
  | ok current => rfl
  | error e => rfl

theorem signOut_conclude : (signOut.conclude outcome jar).1 = .login := by
  simp only [signOut, Exchange.andThen]
  cases (logout.conclude outcome jar).1 with
  | ok u => rfl
  | error e => rfl

/-- An account is there exactly if a success holds one. -/
theorem loadDashboard_ready_iff (current : CurrentUser) :
    (loadDashboard.conclude outcome jar).1 = .ready current ↔
      ∃ response, outcome = .ok response ∧ Success response.status ∧
        Json.decode CurrentUser.read response.body = .ok current := by
  rw [loadDashboard_conclude]
  rcases accepted_cases outcome with ⟨failure, rfl, h⟩ | ⟨response, rfl, hs, h⟩ |
    ⟨code, body, rfl, hs, h⟩
  · rw [h]
    simp [bind, Except.bind]
  · rw [h]
    cases hdecode : Json.decode CurrentUser.read response.body <;>
      simp [bind, Except.bind, decodeBody, hdecode, hs]
  · rw [h]
    simp [bind, Except.bind, hs]

end Flows

/-- The error tells what the backend said only if the backend answered. -/
theorem Error.said_iff (e : Error) :
    (∀ code, e.status? = some code ↔ ∃ complaint, e = .status code complaint) ∧
    (∀ text, e.serverError? = some text ↔ ∃ code detail, e = .status code ⟨some text, detail⟩) ∧
    (∀ text, e.serverDetail? = some text ↔ ∃ code error, e = .status code ⟨error, some text⟩) := by
  cases e with
  | status code complaint =>
    obtain ⟨error, detail⟩ := complaint
    simp [Error.status?, Error.serverError?, Error.serverDetail?]
  | _ => simp [Error.status?, Error.serverError?, Error.serverDetail?]

/-- Whatever a request meets decides what its call yields, and where the flows go:
all calls tell failures and refusals apart, some take any success, and the others
need a body that they can read. -/
theorem outcome_decides (outcome : Outcome) (jar : Jar) :
    ((∀ method path body, Settled outcome ((Call.raw method path body).result outcome jar)) ∧
      (∀ path, Settled outcome ((Call.plain .delete path).result outcome jar)) ∧
      Settled outcome (logout.result outcome jar) ∧
      (∀ credentials, Settled outcome ((login credentials).result outcome jar)) ∧
      (∀ registration, Settled outcome ((register registration).result outcome jar)) ∧
      (∀ (α : Type) method path body (read : List Char → Json.Read α),
        Judged outcome ((Call.fetch method path body read).result outcome jar)) ∧
      Judged outcome (currentUser.result outcome jar)) ∧
    (∀ response, outcome = .ok response → Success response.status →
      (∀ credentials, (login credentials).result outcome jar =
        .ok ((Json.decode Receipt.shape.read response.body).toOption.getD .empty)) ∧
      (∀ registration, (register registration).result outcome jar =
        .ok (Json.decode User.shape.read response.body).toOption)) ∧
    (∀ e : Error,
      (∀ code, e.status? = some code ↔ ∃ complaint, e = .status code complaint) ∧
      (∀ text, e.serverError? = some text ↔ ∃ code detail, e = .status code ⟨some text, detail⟩) ∧
      (∀ text, e.serverDetail? = some text ↔ ∃ code error, e = .status code ⟨error, some text⟩)) ∧
    (∀ credentials route, (submitLogin credentials).result outcome jar = .redirect route ↔
      Succeeds outcome ∧ route = .dashboard) ∧
    (∀ registration route flash,
      (registerAccount registration).result outcome jar = .redirect route flash ↔
        Succeeds outcome ∧ route = .login ∧ flash = signupFlash) ∧
    (∀ current, loadDashboard.result outcome jar = .ready current ↔
      ∃ response, outcome = .ok response ∧ Success response.status ∧
        Json.decode CurrentUser.read response.body = .ok current) ∧
    ((Session.State.ofLoad (loadDashboard.result outcome jar)).mustLeave = false ↔
      ∃ current, loadDashboard.result outcome jar = .ready current) ∧
    signOut.result outcome jar = .login := by
  refine ⟨⟨?_, ?_, ?_, ?_, ?_, ?_, ?_⟩, ?_, Error.said_iff, ?_, ?_, ?_, ?_, ?_⟩
  · exact raw_settled outcome jar
  · exact plain_settled outcome jar .delete
  · exact plain_settled outcome jar .post logoutPath
  · exact login_settled outcome jar
  · exact register_settled outcome jar
  · exact fun α => fetch_judged outcome jar
  · exact fetch_judged outcome jar .get mePath none CurrentUser.read
  · intro response houtcome hs
    have haccepted : accepted outcome = .ok response := by
      rw [houtcome]
      exact accepted_of_success hs
    constructor
    · intro credentials
      rw [Exchange.result, login_conclude, haccepted]
      rfl
    · intro registration
      rw [Exchange.result, register_conclude, haccepted]
      rfl
  · intro credentials route
    rw [Exchange.result, submitLogin_conclude, succeeds_iff]
    cases accepted outcome <;> simp [eq_comm]
  · intro registration route flash
    rw [Exchange.result, registerAccount_conclude, succeeds_iff]
    cases accepted outcome <;> simp [eq_comm]
  · exact loadDashboard_ready_iff outcome jar
  · cases loadDashboard.result outcome jar <;>
      simp [Session.State.ofLoad, Session.State.mustLeave, Session.State.signedIn,
        Session.State.signedOut]
  · exact signOut_conclude outcome jar

end AccountPortal.Backend
