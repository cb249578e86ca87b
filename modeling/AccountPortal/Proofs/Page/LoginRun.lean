import AccountPortal.Page.Login
import AccountPortal.Proofs.Backend.Submitted
import AccountPortal.Proofs.Backend.Verdict
import AccountPortal.Proofs.Page.Exhibit
import AccountPortal.Proofs.Page.Follow

/-!
Runs of the login page, of any length and in any order of edits, submissions,
clicks on providers, replies and changes of the cookies, whatever message was
pending when the page was mounted. The page follows the story of its form; the
message is shown for as long as nothing has been sent.
-/
namespace AccountPortal.Page.Login

open Attempt Backend Browser Cookie Dialogue Form Http

/-- A login form has no rules, so it is always sent. -/
def desk : Desk LoginField LoginForm Credentials where
  set := LoginForm.set
  check form := .ok form.credentials
  complaint e := e.serverError?.getD "Login failed. Please try again."

def gesture : Event → Gesture LoginField
  | .edit field value => .edit field value
  | .submit => .submit
  | .provider p => .provider p

/-- The message that was pending, until the first attempt is sent. -/
def noticeOf (message : Option String) (story : Story LoginForm Credentials) : Option String :=
  if (dispatched story.attempts).isEmpty then message else none

/-- The page that shows a story, with the message that was pending at first. -/
def pageOf (message : Option String) (story : Story LoginForm Credentials) : State :=
  ⟨story.form, desk.status story.attempts, noticeOf message story, story.tried, .empty⟩

/-- The story that actions tell on a new page. -/
def storyOf (actions : List (Action Event)) : Story LoginForm Credentials :=
  actions.foldl (desk.note gesture) (.start .empty)

/-- The page from its mounting on, with what is seen of it. -/
def run (base : Base) (jar : Jar) (flash : Flash) (actions : List (Action Event)) :
    World State Credentials × Trace :=
  World.visit program base jar (.quiet (mount flash)) actions

section Handle

variable (s : State)

theorem handle_edit (field : LoginField) (value : String) :
    program.handle s (.edit field value) = .quiet { s with form := s.form.set field value } := rfl

theorem handle_provider (p : Provider) :
    program.handle s (.provider p) =
      { state := { s with tried := some p }, log := [⟨.info, p.logText⟩] } := rfl

theorem handle_submit_busy (h : s.status.isBusy = true) :
    program.handle s .submit = { state := s, prevented := 1 } := by
  simp [program, handle, h]

theorem handle_submit_accepted (h : s.status.isBusy = false) :
    program.handle s .submit =
      { state := { s with status := .submitting, notice := none }, prevented := 1,
        started := [s.form.credentials] } := by
  simp [program, handle, h]

end Handle

theorem submitLogin_failure? (credentials : Credentials) (outcome : Outcome) (jar : Jar) :
    ((submitLogin credentials).conclude outcome jar).1 =
      match desk.failure? outcome with
      | some message => .failed message
      | none => .redirect .dashboard := by
  rw [submitLogin_conclude, Desk.failure?]
  cases accepted outcome with
  | ok response => rfl
  | error e => rfl

theorem task_conclude (credentials : Credentials) (outcome : Outcome) (jar : Jar) (s : State) :
    ((program.task credentials).conclude outcome jar).1 s =
      match desk.failure? outcome with
      | some message => .quiet { s with status := .failed message }
      | none => { state := { s with status := .succeeded }, navigated := [.to .dashboard] } := by
  simp only [program, Exchange.map, Exchange.andThen, submitLogin_failure?]
  cases desk.failure? outcome with
  | some message => rfl
  | none => rfl

/-- Submitting is what the story makes of it, on the page that shows the story. -/
theorem handle_submit (message : Option String) (story : Story LoginForm Credentials) :
    program.handle (pageOf message story) .submit =
      { state := pageOf message (desk.hear story .submit), prevented := 1,
        started := desk.begins story .submit } := by
  have hbusy : (pageOf message story).status.isBusy = !(awaited story.attempts).isEmpty :=
    status_isBusy desk story.attempts
  cases hw : awaited story.attempts with
  | cons sent rest =>
    rw [handle_submit_busy _ (by simp [hbusy, hw])]
    simp [Desk.hear, Desk.submit, Desk.begins, hw]
  | nil =>
    have hc : desk.check story.form = .ok story.form.credentials := rfl
    rw [handle_submit_accepted _ (by simp [hbusy, hw])]
    simp [pageOf, noticeOf, Desk.hear, Desk.submit, Desk.begins, Desk.status, dispatched, hw, hc]

theorem follows (message : Option String) :
    Follows desk program gesture (pageOf message) .dashboard where
  settle _ := rfl
  reacts story e := by
    cases e with
    | edit field value => exact ⟨0, [], rfl⟩
    | provider p => exact ⟨0, [⟨.info, p.logText⟩], rfl⟩
    | submit => exact ⟨1, [], handle_submit message story⟩
  concludes form tried credentials past outcome jar := by
    rw [task_conclude]
    cases hf : desk.failure? outcome with
    | some text =>
      have hs : succeeded outcome = false := succeeded_eq_false desk hf
      simp [pageOf, noticeOf, Reaction.quiet, Desk.status, dispatched, hf, hs]
    | none =>
      have hs : succeeded outcome = true := (failure?_eq_none_iff desk outcome).mp hf
      simp [pageOf, noticeOf, Desk.status, dispatched, hf, hs]

theorem findings_view (path : List Char) (s : State) :
    findings (view path s) = s.notice.toList.map (.banner "status") ++
      s.status.error?.toList.map (.banner "alert") ++
      List.replicate 3 (.control s.status.isBusy) := by
  simp [view, findings, findingsIn_card, findings_append, findingsIn_errorAlert,
    findingsIn_noticeAlert, findingsIn_classed, findingsIn_input, findingsIn_submitButton,
    findings_providerButtons, findingsIn_footer, List.replicate]

/-- The request for an attempt takes the values of the form there. -/
def SignsIn (base : Base) (r : Request) (email password : String) : Prop :=
  Submits r (base.address ++ "/auth/login/") [("email", email), ("password", password)]

theorem signsIn_request (base : Base) (jar : Jar) (credentials : Credentials) :
    SignsIn base ((program.task credentials).request base jar) credentials.email
      credentials.password :=
  submits_buildRequest (endpoint_login base) jar
    [("email", credentials.email), ("password", credentials.password)]

theorem form_storyOf (actions : List (Action Event)) :
    (storyOf actions).form =
      ⟨lastTyped gesture .email actions, lastTyped gesture .password actions⟩ := by
  have hemail : (storyOf actions).form.email = lastTyped gesture .email actions :=
    form_told desk gesture .email LoginForm.email (fun _ other _ => by cases other <;> rfl)
      .empty rfl actions
  have hpassword : (storyOf actions).form.password = lastTyped gesture .password actions :=
    form_told desk gesture .password LoginForm.password (fun _ other _ => by cases other <;> rfl)
      .empty rfl actions
  rw [← hemail, ← hpassword]

/-- What holds after any actions: of the world `w` that they have led to and of what
was seen on the way, `t`. -/
structure Orderly (base : Base) (path : List Char) (flash : Flash) (actions : List (Action Event))
    (w : World State Credentials) (t : Trace) : Prop where
  form : w.page.form = ⟨lastTyped gesture .email actions, lastTyped gesture .password actions⟩
  tried : w.page.tried = (storyOf actions).tried
  /-- At most one attempt is under way, the one that was sent last. -/
  waiting : w.waiting = awaited (storyOf actions).attempts ∧ w.ready = [] ∧ w.waiting.length ≤ 1
  busy : w.page.status.isBusy = true ↔ w.waiting.length = 1
  edit : ∀ field value, w.step program base (.event (.edit field value)) false =
    ({ w with page := { w.page with form := w.page.form.set field value } }, .empty, none)
  /-- A click on a provider is noted, and it asks nobody. -/
  provider : ∀ p, w.step program base (.event (.provider p)) false =
    ({ w with page := { w.page with tried := some p } }, ⟨[], [], 0, [⟨.info, p.logText⟩]⟩, none)
  submit_busy : w.page.status.isBusy = true →
    w.step program base (.event .submit) false = (w, ⟨[], [], 1, []⟩, none)
  /-- A form is sent as it is, and neither banner is left. -/
  submit_accepted : w.page.status.isBusy = false →
    ∃ r, SignsIn base r w.page.form.email w.page.form.password ∧ Marked w.jar r ∧
      w.step program base (.event .submit) false =
        ({ w with
            page := { w.page with status := .submitting, notice := none }
            waiting := [⟨w.page.form.email, w.page.form.password⟩] },
          ⟨[r], [], 1, [⟨.debug, "POST " ++ (base.address ++ "/auth/login/")⟩]⟩, none)
  /-- The notice is the message that was pending, until an attempt is sent; the
  other banner tells of the latest attempt if that one failed; and the two inputs
  and the button are disabled while the page is busy. -/
  shown : findings (view path w.page) =
    (noticeOf flash.message (storyOf actions)).toList.map (.banner "status") ++
      (desk.error? (storyOf actions).attempts).toList.map (.banner "alert") ++
      List.replicate 3 (.control w.page.status.isBusy)
  /-- Each attempt sent one request, with the fields as of its submission. -/
  sent : List.Forall₂
    (fun r credentials => SignsIn base r credentials.email credentials.password)
    t.sent (dispatched (storyOf actions).attempts)
  navigated : t.navigated =
    List.replicate (successes (storyOf actions).attempts) ⟨"/dashboard", false⟩
  flash : w.page.flash = ⟨none⟩

/-- Every run of the page is orderly. -/
theorem login_run_orderly (base : Base) (jar : Jar) (flash : Flash) (path : List Char)
    (actions : List (Action Event)) :
    Orderly base path flash actions (run base jar flash actions).1
      (run base jar flash actions).2 := by
  have hworld : (run base jar flash actions).1 =
      worldOf (pageOf flash.message) (storyOf actions) (actions.foldl Action.jarAfter jar) :=
    (follows flash.message).visit_world base jar .empty actions
  rw [hworld]
  generalize actions.foldl Action.jarAfter jar = last
  refine {
    form := form_storyOf actions
    tried := rfl
    waiting := ⟨rfl, rfl, awaited_length_le _⟩
    busy := status_isBusy_iff desk _
    edit := ?_
    provider := ?_
    submit_busy := ?_
    submit_accepted := ?_
    shown := ?_
    sent := (follows flash.message).visit_sent base jar .empty actions
      fun credentials jar => signsIn_request base jar credentials
    navigated := (follows flash.message).visit_navigated base jar .empty actions
    flash := rfl
  }
  · intro field value
    rw [World.step_event program base (fun _ => rfl) (worldOf _ _ last) rfl
      (handle_edit _ field value)]
    simp [Reaction.quiet, Trace.empty]
  · intro p
    rw [World.step_event program base (fun _ => rfl) (worldOf _ _ last) rfl (handle_provider _ p)]
    simp
  · intro hbusy
    rw [World.step_event program base (fun _ => rfl) (worldOf _ _ last) rfl
      (handle_submit_busy _ hbusy)]
    simp
  · intro hidle
    let form := (storyOf actions).form
    let credentials : Credentials := ⟨form.email, form.password⟩
    have hnone : awaited (storyOf actions).attempts = [] := by
      simpa [worldOf, pageOf, status_isBusy] using hidle
    refine ⟨(program.task credentials).request base last, signsIn_request base last credentials,
      buildRequest_marked base last _ _ _, ?_⟩
    rw [World.step_event program base (fun _ => rfl) (worldOf _ _ last) rfl
      (handle_submit_accepted _ hidle), ← endpoint_login]
    simp only [worldOf, hnone, List.nil_append]
    rfl
  · rw [findings_view]
    simp only [worldOf, pageOf, status_error?]

end AccountPortal.Page.Login
