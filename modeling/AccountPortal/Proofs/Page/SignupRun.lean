import AccountPortal.Page.Signup
import AccountPortal.Proofs.Backend.Submitted
import AccountPortal.Proofs.Backend.Verdict
import AccountPortal.Proofs.Form.FirstViolation
import AccountPortal.Proofs.Page.Exhibit
import AccountPortal.Proofs.Page.Follow

/-!
Runs of the sign-up page, of any length and in any order of edits, submissions,
clicks on providers, replies and changes of the cookies. The page follows the
story of its form, so at every moment it is busy exactly while a registration is
under way, and it shows what became of the latest attempt.
-/
namespace AccountPortal.Page.Signup

open Attempt Backend Browser Cookie Dialogue Form Http

def desk : Desk SignupField SignupForm Registration where
  set := SignupForm.set
  check form := form.validate.mapError SignupRule.message
  complaint e := (e.serverError?.or e.serverDetail?).getD "Signup failed. Please try again."

def gesture : Event → Gesture SignupField
  | .edit field value => .edit field value
  | .submit => .submit
  | .provider p => .provider p

/-- The page that shows a story. The first success leaves a message. -/
def pageOf (flash : Flash) (story : Story SignupForm Registration) : State :=
  ⟨story.form, desk.status story.attempts, story.tried,
    if successes story.attempts = 0 then flash else ⟨some signupFlash⟩⟩

/-- The story that actions tell on a new page. -/
def storyOf (actions : List (Action Event)) : Story SignupForm Registration :=
  actions.foldl (desk.note gesture) (.start .empty)

/-- The page from its mounting on, with what is seen of it. -/
def run (base : Base) (jar : Jar) (flash : Flash) (actions : List (Action Event)) :
    World State Registration × Trace :=
  World.visit program base jar (.quiet (mount flash)) actions

section Handle

variable (s : State)

theorem handle_edit (field : SignupField) (value : String) :
    program.handle s (.edit field value) = .quiet { s with form := s.form.set field value } := rfl

theorem handle_provider (p : Provider) :
    program.handle s (.provider p) =
      { state := { s with tried := some p }, log := [⟨.info, p.logText⟩] } := rfl

theorem handle_submit_busy (h : s.status.isBusy = true) :
    program.handle s .submit = { state := s, prevented := 1 } := by
  simp [program, handle, h]

theorem handle_submit_refused (h : s.status.isBusy = false) (rule : SignupRule)
    (hrule : s.form.validate = .error rule) :
    program.handle s .submit =
      { state := { s with status := .failed rule.message }, prevented := 1 } := by
  simp [program, handle, h, hrule]

theorem handle_submit_accepted (h : s.status.isBusy = false) (registration : Registration)
    (hok : s.form.validate = .ok registration) :
    program.handle s .submit =
      { state := { s with status := .submitting }, prevented := 1,
        started := [registration] } := by
  simp [program, handle, h, hok]

end Handle

theorem registerAccount_failure? (registration : Registration) (outcome : Outcome) (jar : Jar) :
    ((registerAccount registration).conclude outcome jar).1 =
      match desk.failure? outcome with
      | some message => .failed message
      | none => .redirect .login signupFlash := by
  rw [registerAccount_conclude, Desk.failure?]
  cases accepted outcome with
  | ok response => rfl
  | error e => rfl

theorem task_conclude (registration : Registration) (outcome : Outcome) (jar : Jar) (s : State) :
    ((program.task registration).conclude outcome jar).1 s =
      match desk.failure? outcome with
      | some message => .quiet { s with status := .failed message }
      | none =>
        { state := { s with status := .succeeded, flash := ⟨some signupFlash⟩ }
          navigated := [.to .login] } := by
  simp only [program, Exchange.map, Exchange.andThen, registerAccount_failure?]
  cases desk.failure? outcome with
  | some message => rfl
  | none => rfl

/-- Submitting is what the story makes of it, on the page that shows the story. -/
theorem handle_submit (flash : Flash) (story : Story SignupForm Registration) :
    program.handle (pageOf flash story) .submit =
      { state := pageOf flash (desk.hear story .submit), prevented := 1,
        started := desk.begins story .submit } := by
  have hbusy : (pageOf flash story).status.isBusy = !(awaited story.attempts).isEmpty :=
    status_isBusy desk story.attempts
  cases hw : awaited story.attempts with
  | cons sent rest =>
    rw [handle_submit_busy _ (by simp [hbusy, hw])]
    simp [Desk.hear, Desk.submit, Desk.begins, hw]
  | nil =>
    have hidle : (pageOf flash story).status.isBusy = false := by simp [hbusy, hw]
    cases hv : story.form.validate with
    | ok registration =>
      have hc : desk.check story.form = .ok registration :=
        congrArg (Except.mapError SignupRule.message) hv
      rw [handle_submit_accepted _ hidle registration hv]
      simp [pageOf, Desk.hear, Desk.submit, Desk.begins, Desk.status, successes, hw, hc]
    | error rule =>
      have hc : desk.check story.form = .error rule.message :=
        congrArg (Except.mapError SignupRule.message) hv
      rw [handle_submit_refused _ hidle rule hv]
      simp [pageOf, Desk.hear, Desk.submit, Desk.begins, Desk.status, successes, hw, hc]

theorem follows (flash : Flash) : Follows desk program gesture (pageOf flash) .login where
  settle _ := rfl
  reacts story e := by
    cases e with
    | edit field value => exact ⟨0, [], rfl⟩
    | provider p => exact ⟨0, [⟨.info, p.logText⟩], rfl⟩
    | submit => exact ⟨1, [], handle_submit flash story⟩
  concludes form tried registration past outcome jar := by
    rw [task_conclude]
    cases hf : desk.failure? outcome with
    | some message =>
      have hs : succeeded outcome = false := succeeded_eq_false desk hf
      have hn : successes (.answered registration outcome :: past) =
          successes (.pending registration :: past) := by
        simp [successes, hs]
      simp [pageOf, Reaction.quiet, Desk.status, hn, hf, hs]
    | none =>
      have hs : succeeded outcome = true := (failure?_eq_none_iff desk outcome).mp hf
      simp [pageOf, Desk.status, successes, hf, hs]

theorem findings_view (path : List Char) (s : State) :
    findings (view path s) = s.status.error?.toList.map (.banner "alert") ++
      List.replicate 5 (.control s.status.isBusy) := by
  simp [view, findings, findingsIn_card, findings_append, findingsIn_errorAlert,
    findingsIn_classed, findingsIn_input, findingsIn_submitButton, findings_providerButtons,
    findingsIn_footer, List.replicate]

/-- What a visitor is told about a form that violates a rule. -/
def remarks : List (SignupRule × String) :=
  [(.usernameRequired, "Username is required"),
    (.usernameTooShort, "Username must be at least 3 characters"),
    (.emailRequired, "Email is required"),
    (.emailInvalid, "Please enter a valid email address"),
    (.passwordRequired, "Password is required"),
    (.passwordTooShort, "Password must be at least 6 characters"),
    (.passwordMismatch, "Passwords do not match")]

theorem message_of_mem_remarks {rule : SignupRule} {message : String}
    (h : (rule, message) ∈ remarks) : rule.message = message := by
  simp only [remarks, List.mem_cons, Prod.mk.injEq, List.not_mem_nil, or_false] at h
  rcases h with ⟨rfl, rfl⟩ | ⟨rfl, rfl⟩ | ⟨rfl, rfl⟩ | ⟨rfl, rfl⟩ | ⟨rfl, rfl⟩ | ⟨rfl, rfl⟩ |
    ⟨rfl, rfl⟩
  all_goals rfl

/-- The request for a registration takes the values of the form there. -/
def Registers (base : Base) (r : Request) (username email password : String) : Prop :=
  Submits r (base.address ++ "/auth/register/")
    [("username", username), ("email", email), ("password", password)]

theorem registers_request (base : Base) (jar : Jar) (registration : Registration) :
    Registers base ((program.task registration).request base jar) registration.username
      registration.email registration.password :=
  submits_buildRequest (endpoint_register base) jar
    [("username", registration.username), ("email", registration.email),
      ("password", registration.password)]

theorem form_storyOf (actions : List (Action Event)) :
    (storyOf actions).form =
      ⟨lastTyped gesture .username actions, lastTyped gesture .email actions,
        lastTyped gesture .password actions, lastTyped gesture .confirmation actions⟩ := by
  have hfield (field : SignupField) :
      (storyOf actions).form.get field = lastTyped gesture field actions :=
    form_told desk gesture field (fun form => form.get field)
      (fun form other value => form.get_set other field value) .empty (by cases field <;> rfl)
      actions
  rw [← hfield .username, ← hfield .email, ← hfield .password, ← hfield .confirmation]
  rfl

/-- What holds after any actions: of the world `w` that they have led to and of what
was seen on the way, `t`. -/
structure Orderly (base : Base) (path : List Char) (flash : Flash) (actions : List (Action Event))
    (w : World State Registration) (t : Trace) : Prop where
  form : w.page.form =
    ⟨lastTyped gesture .username actions, lastTyped gesture .email actions,
      lastTyped gesture .password actions, lastTyped gesture .confirmation actions⟩
  tried : w.page.tried = (storyOf actions).tried
  /-- At most one registration is under way, the one that was sent last. -/
  waiting : w.waiting = awaited (storyOf actions).attempts ∧ w.ready = [] ∧ w.waiting.length ≤ 1
  busy : w.page.status.isBusy = true ↔ w.waiting.length = 1
  not_validating : w.page.status ≠ .validating
  edit : ∀ field value, w.step program base (.event (.edit field value)) false =
    ({ w with page := { w.page with form := w.page.form.set field value } }, .empty, none)
  /-- A click on a provider is noted, and it asks nobody. -/
  provider : ∀ p, w.step program base (.event (.provider p)) false =
    ({ w with page := { w.page with tried := some p } }, ⟨[], [], 0, [⟨.info, p.logText⟩]⟩, none)
  submit_busy : w.page.status.isBusy = true →
    w.step program base (.event .submit) false = (w, ⟨[], [], 1, []⟩, none)
  submit_refused : ∀ rule message, (rule, message) ∈ remarks → w.page.status.isBusy = false →
    rule.FirstViolated w.page.form →
    w.step program base (.event .submit) false =
      ({ w with page := { w.page with status := .failed message } }, ⟨[], [], 1, []⟩, none)
  /-- A form that passes every rule is sent as it is, and the error is gone. -/
  submit_accepted : w.page.status.isBusy = false →
    (∀ rule : SignupRule, rule.Passes w.page.form) →
    ∃ r, Registers base r w.page.form.username w.page.form.email w.page.form.password ∧
      Marked w.jar r ∧
      w.step program base (.event .submit) false =
        ({ w with
            page := { w.page with status := .submitting }
            waiting := [⟨w.page.form.username, w.page.form.email, w.page.form.password⟩] },
          ⟨[r], [], 1, [⟨.debug, "POST " ++ (base.address ++ "/auth/register/")⟩]⟩, none)
  /-- The banner tells of the latest attempt if that one failed, and the four
  inputs and the button are disabled while the page is busy. -/
  shown : findings (view path w.page) =
    (desk.error? (storyOf actions).attempts).toList.map (.banner "alert") ++
      List.replicate 5 (.control w.page.status.isBusy)
  /-- Each accepted attempt sent one request, with the fields as of its submission. -/
  sent : List.Forall₂
    (fun r registration => Registers base r registration.username registration.email
      registration.password) t.sent (dispatched (storyOf actions).attempts)
  navigated : t.navigated =
    List.replicate (successes (storyOf actions).attempts) ⟨"/login", false⟩
  flash : w.page.flash =
    if successes (storyOf actions).attempts = 0 then flash
    else ⟨some "Account created successfully! Please log in."⟩

/-- Every run of the page is orderly. -/
theorem signup_run_orderly (base : Base) (jar : Jar) (flash : Flash) (path : List Char)
    (actions : List (Action Event)) :
    Orderly base path flash actions (run base jar flash actions).1
      (run base jar flash actions).2 := by
  have hworld : (run base jar flash actions).1 =
      worldOf (pageOf flash) (storyOf actions) (actions.foldl Action.jarAfter jar) :=
    (follows flash).visit_world base jar .empty actions
  rw [hworld]
  generalize actions.foldl Action.jarAfter jar = last
  refine {
    form := form_storyOf actions
    tried := rfl
    waiting := ⟨rfl, rfl, awaited_length_le _⟩
    busy := status_isBusy_iff desk _
    not_validating := status_ne_validating desk _
    edit := ?_
    provider := ?_
    submit_busy := ?_
    submit_refused := ?_
    submit_accepted := ?_
    shown := ?_
    sent := (follows flash).visit_sent base jar .empty actions
      fun registration jar => registers_request base jar registration
    navigated := (follows flash).visit_navigated base jar .empty actions
    flash := rfl
  }
  · intro field value
    rw [World.step_event program base (fun _ => rfl) (worldOf _ _ last) rfl
      (handle_edit _ field value)]
    simp [Reaction.quiet, Trace.empty]
  · intro p
    rw [World.step_event program base (fun _ => rfl) (worldOf _ _ last) rfl (handle_provider _ p)]
    simp
  · intro hbusy
    rw [World.step_event program base (fun _ => rfl) (worldOf _ _ last) rfl
      (handle_submit_busy _ hbusy)]
    simp
  · intro rule message hremark hidle hrule
    have hinvalid := (SignupForm.validate_eq_error_iff _).mpr hrule
    rw [World.step_event program base (fun _ => rfl) (worldOf _ _ last) rfl
      (handle_submit_refused _ hidle rule hinvalid)]
    simp [message_of_mem_remarks hremark]
  · intro hidle hpasses
    let form := (storyOf actions).form
    let registration : Registration := ⟨form.username, form.email, form.password⟩
    have hvalid : form.validate = .ok registration := form.validate_eq_ok_iff.mpr ⟨hpasses, rfl⟩
    have hnone : awaited (storyOf actions).attempts = [] := by
      simpa [worldOf, pageOf, status_isBusy] using hidle
    refine ⟨(program.task registration).request base last,
      registers_request base last registration, buildRequest_marked base last _ _ _, ?_⟩
    rw [World.step_event program base (fun _ => rfl) (worldOf _ _ last) rfl
      (handle_submit_accepted _ hidle registration hvalid), ← endpoint_register]
    simp only [worldOf, hnone, List.nil_append]
    rfl
  · rw [findings_view]
    simp only [worldOf, pageOf, status_error?]

end AccountPortal.Page.Signup
