import AccountPortal.Page.Dashboard
import AccountPortal.Proofs.Browser.Slot
import AccountPortal.Proofs.Page.LoginRun
import AccountPortal.Proofs.Page.SignupRun
import Mathlib.Data.List.DropRight

/-!
The flash slot through any history of the site. Pages are opened, on the server or in
browsers, pages that are open go on at whatever stage they are, and messages are set in
between. Between two openings of the login page the slot holds the last message set, and
an opening takes it out.
-/
namespace AccountPortal.Page

open Backend Browser Cookie Form Http Markup

inductive Happening where
  | set (message : String)
  /-- A page is opened at a path: in a browser with a cookie store, or on the server. -/
  | opening (route : Route) (path : List Char) (browser : Option Jar)
  | login (w : World Login.State Credentials) (action : Action Login.Event) (hold : Bool)
  | signup (w : World Signup.State Registration) (action : Action Signup.Event) (hold : Bool)
  | dashboard (w : World Dashboard.State Dashboard.Task) (action : Action Dashboard.Event)
    (hold : Bool)

/-- What an opened page shows, and the slot then. -/
def opened (base : Base) (slot : Flash) (path : List Char) :
    Route → Option Jar → List Node × Flash
  | .login, none => (Login.view path (Login.mount slot), (Login.mount slot).flash)
  | .login, some jar =>
    let w := (World.mount Login.program base jar (.quiet (Login.mount slot))).1
    (Login.view path w.page, w.page.flash)
  | .signup, none => (Signup.view path (Signup.mount slot), (Signup.mount slot).flash)
  | .signup, some jar =>
    let w := (World.mount Signup.program base jar (.quiet (Signup.mount slot))).1
    (Signup.view path w.page, w.page.flash)
  | .dashboard, none => (Dashboard.view (Dashboard.initial slot), (Dashboard.initial slot).flash)
  | .dashboard, some jar =>
    let w := (World.mount Dashboard.program base jar (Dashboard.mount slot)).1
    (Dashboard.view w.page, w.page.flash)

/-- The message of a registration that the backend accepted. -/
def news (_ : Registration) (outcome : Outcome) : Option String :=
  if succeeded outcome then some signupFlash else none

namespace Happening

/-- The slot after a happening. A page that goes on has the slot for its own. -/
def after (base : Base) (slot : Flash) : Happening → Flash
  | .set message => slot.set message
  | .opening route path browser => (opened base slot path route browser).2
  | .login w action hold =>
    let w := { w with page := { w.page with flash := slot } }
    (w.step Login.program base action hold).1.page.flash
  | .signup w action hold =>
    let w := { w with page := { w.page with flash := slot } }
    (w.step Signup.program base action hold).1.page.flash
  | .dashboard w action hold =>
    let w := { w with page := { w.page with flash := slot } }
    (w.step Dashboard.program base action hold).1.page.flash

/-- The messages that a happening sets: those set as they are, and one for each success
of a sign-up that comes to be known. -/
def messages : Happening → List String
  | .set message => [message]
  | .signup w action hold => if hold then [] else (w.heard action).filterMap (Ready.told news)
  | _ => []

def opensLogin : Happening → Bool
  | .opening .login _ _ => true
  | _ => false

end Happening

/-- The slot after a history that begins with an empty one. -/
def slotAfter (base : Base) (history : List Happening) : Flash :=
  history.foldl (Happening.after base) .empty

/-- The messages set since the login page was last opened. -/
def recent (history : List Happening) : List String :=
  (history.rtakeWhile fun h => !h.opensLogin).flatMap Happening.messages

/-- The texts of the friendly banners among nodes. -/
def notices (nodes : List Node) : List String :=
  (findings nodes).filterMap fun
    | .banner role text => if role = "status" then some text else none
    | .control _ => none

/-- The notices of the page that is opened, if one is. -/
def Happening.shown (base : Base) (slot : Flash) : Happening → List String
  | .opening route path browser => notices (opened base slot path route browser).1
  | _ => []

/-- The notices shown by the pages that are opened in a history, in order. -/
def noticesIn (base : Base) : Flash → List Happening → List String
  | _, [] => []
  | slot, h :: rest => h.shown base slot ++ noticesIn base (h.after base slot) rest

section Opened

variable (base : Base) (slot : Flash) (path : List Char) (browser : Option Jar)

theorem opened_login :
    opened base slot path .login browser = (Login.view path (Login.mount slot), .empty) := by
  cases browser <;> rfl

theorem opened_signup :
    opened base slot path .signup browser = (Signup.view path (Signup.mount .empty), slot) := by
  cases browser <;> rfl

theorem opened_dashboard :
    opened base slot path .dashboard browser = ([Dashboard.waitingView true], slot) := by
  cases browser <;> rfl

theorem notices_login : notices (Login.view path (Login.mount slot)) = slot.message.toList := by
  have hcontrols (n : Nat) (busy : Bool) :
      (List.replicate n (Finding.control busy)).filterMap (fun
        | .banner role text => if role = "status" then some text else none
        | .control _ => none) = [] := by
    induction n with
    | zero => rfl
    | succ n ih => rw [List.replicate_succ, List.filterMap_cons_none rfl, ih]
  rw [notices, Login.findings_view, List.filterMap_append, List.filterMap_append, hcontrols]
  cases slot with
  | mk message => cases message <;> rfl

theorem notices_signup : notices (Signup.view path (Signup.mount slot)) = [] := by
  rw [notices, Signup.findings_view]
  rfl

theorem notices_waitingView : notices [Dashboard.waitingView true] = [] := by
  simp [notices, Dashboard.waitingView, findings, findingsIn_classed, findingsIn_plain, findingsIn]

end Opened

theorem Login.posts : Posts Login.program Login.State.flash fun _ _ => none where
  handle s e := by
    cases e with
    | edit field value => rfl
    | provider p => rfl
    | submit =>
      simp only [Login.program, Login.handle]
      split <;> rfl
  settle _ := rfl
  conclude credentials outcome jar s := by
    rw [Login.task_conclude]
    split <;> rfl

theorem Signup.posts : Posts Signup.program Signup.State.flash news where
  handle s e := by
    cases e with
    | edit field value => rfl
    | provider p => rfl
    | submit =>
      simp only [Signup.program, Signup.handle]
      split
      · rfl
      · split <;> rfl
  settle _ := rfl
  conclude registration outcome jar s := by
    rw [Signup.task_conclude, news]
    cases hf : Signup.desk.failure? outcome with
    | some message =>
      rw [succeeded_eq_false Signup.desk hf]
      rfl
    | none =>
      rw [(failure?_eq_none_iff Signup.desk outcome).mp hf]
      rfl

theorem Dashboard.posts : Posts Dashboard.program Dashboard.State.flash fun _ _ => none where
  handle s e := by
    cases e
    simp only [Dashboard.program, Dashboard.handle]
    split <;> rfl
  settle _ := rfl
  conclude task outcome jar s := by
    cases task <;> rfl

theorem told_none {τ : Type} (tasks : List (Ready τ)) :
    tasks.filterMap (Ready.told fun _ _ => none) = [] := by
  have htold (task : Ready τ) : task.told (fun _ _ => none) = none := by cases task <;> rfl
  simp [htold]

section After

variable (base : Base) (slot : Flash)

theorem after_opensLogin {h : Happening} (hlogin : h.opensLogin = true) :
    h.after base slot = .empty := by
  cases h with
  | opening route path browser =>
    cases route with
    | login => rw [Happening.after, opened_login]
    | signup => cases hlogin
    | dashboard => cases hlogin
  | _ => cases hlogin

/-- Short of an opening of the login page the slot holds on to its message until another
one is set. -/
theorem after_message {h : Happening} (hlogin : h.opensLogin = false) :
    (h.after base slot).message = h.messages.getLast?.or slot.message := by
  cases h with
  | set message => rfl
  | opening route path browser =>
    cases route with
    | login => cases hlogin
    | signup => rw [Happening.after, opened_signup]; rfl
    | dashboard => rw [Happening.after, opened_dashboard]; rfl
  | login w action hold =>
    rw [Happening.after, step_message Login.posts, told_none, ite_self]
    rfl
  | signup w action hold => exact step_message Signup.posts base _ action hold
  | dashboard w action hold =>
    rw [Happening.after, step_message Dashboard.posts, told_none, ite_self]
    rfl

theorem shown_opensLogin {h : Happening} (hlogin : h.opensLogin = true) :
    h.shown base slot = slot.message.toList ∧ h.messages = [] := by
  cases h with
  | opening route path browser =>
    cases route with
    | login => exact ⟨by rw [Happening.shown, opened_login, notices_login], rfl⟩
    | signup => cases hlogin
    | dashboard => cases hlogin
  | _ => cases hlogin

theorem shown_other {h : Happening} (hlogin : h.opensLogin = false) : h.shown base slot = [] := by
  cases h with
  | opening route path browser =>
    cases route with
    | login => cases hlogin
    | signup => rw [Happening.shown, opened_signup, notices_signup]
    | dashboard => rw [Happening.shown, opened_dashboard, notices_waitingView]
  | _ => rfl

theorem after_eq_self {h : Happening} (hlogin : h.opensLogin = false) (hquiet : h.messages = []) :
    h.after base slot = slot := by
  have hmessage := after_message base slot hlogin
  rw [hquiet, List.getLast?_nil, Option.none_or] at hmessage
  cases hafter : h.after base slot
  cases slot
  rw [hafter] at hmessage
  exact congrArg Flash.mk hmessage

end After

/-- The slot holds the last message set since the login page was last opened. -/
theorem slotAfter_message (base : Base) (history : List Happening) :
    (slotAfter base history).message = (recent history).getLast? := by
  induction history using List.reverseRecOn with
  | nil => rfl
  | append_singleton history h ih =>
    rw [slotAfter, List.foldl_append, List.foldl_cons, List.foldl_nil, recent,
      List.rtakeWhile_concat]
    cases hlogin : h.opensLogin with
    | true => rw [after_opensLogin base _ hlogin]; rfl
    | false =>
      rw [after_message base _ hlogin]
      simp only [Bool.not_false, if_true, List.flatMap_append, List.flatMap_singleton,
        List.getLast?_append]
      exact congrArg _ ih

/-- What is shown has been set before, and it is shown in that order and once. -/
theorem noticesIn_sublist (base : Base) (slot : Flash) (history : List Happening) :
    (noticesIn base slot history).Sublist
      (slot.message.toList ++ history.flatMap Happening.messages) := by
  induction history generalizing slot with
  | nil => exact List.nil_sublist _
  | cons h rest ih =>
    have hrest := ih (h.after base slot)
    rw [noticesIn, List.flatMap_cons]
    cases hlogin : h.opensLogin with
    | true =>
      rw [after_opensLogin base slot hlogin] at hrest ⊢
      obtain ⟨hshown, hquiet⟩ := shown_opensLogin base slot hlogin
      rw [hshown, hquiet]
      exact (List.Sublist.refl _).append hrest
    | false =>
      have hheld : (h.after base slot).message.toList.Sublist
          (slot.message.toList ++ h.messages) := by
        rw [after_message base slot hlogin]
        cases hlast : h.messages.getLast? with
        | none => exact List.sublist_append_left _ _
        | some message =>
          have hmem : message ∈ h.messages := List.mem_of_getLast? hlast
          exact (List.singleton_sublist.mpr hmem).trans (List.sublist_append_right _ _)
      rw [shown_other base slot hlogin, List.nil_append, ← List.append_assoc]
      exact hrest.trans (hheld.append_right _)

/-- A registration has news exactly if it met with success. -/
theorem news_cases (registration : Registration) (outcome : Outcome) :
    (Succeeds outcome ∧ news registration outcome = some signupFlash) ∨
    (¬ Succeeds outcome ∧ news registration outcome = none) := by
  rw [news, ← succeeded_iff]
  by_cases hs : succeeded outcome = true
  · exact Or.inl ⟨hs, if_pos hs⟩
  · exact Or.inr ⟨hs, if_neg hs⟩

section Signup

variable (base : Base) (slot : Flash) (w : World Signup.State Registration)
  (action : Action Signup.Event)

theorem messages_signup_eq_nil (hold : Bool)
    (h : ∀ registration outcome, .resume registration outcome ∈ w.heard action →
      ¬ Succeeds outcome) : (Happening.signup w action hold).messages = [] := by
  have hnone : (w.heard action).filterMap (Ready.told news) = [] := by
    apply List.filterMap_eq_nil_iff.mpr
    intro task htask
    cases task with
    | start registration => rfl
    | resume registration outcome =>
      rcases news_cases registration outcome with ⟨hs, _⟩ | ⟨_, hnews⟩
      · exact absurd hs (h registration outcome htask)
      · exact hnews
  rw [Happening.messages, hnone, ite_self]

theorem after_signup_of_success {registration : Registration} {outcome : Outcome}
    (hmem : .resume registration outcome ∈ w.heard action) (hs : Succeeds outcome) :
    (Happening.signup w action false).after base slot = ⟨some signupFlash⟩ := by
  have hnews : news registration outcome = some signupFlash := by
    rcases news_cases registration outcome with ⟨_, hnews⟩ | ⟨hrefused, _⟩
    · exact hnews
    · exact absurd hs hrefused
  have htold : signupFlash ∈ (Happening.signup w action false).messages :=
    List.mem_filterMap.mpr ⟨.resume registration outcome, hmem, hnews⟩
  have hmessage := after_message base slot
    (rfl : (Happening.signup w action false).opensLogin = false)
  cases hlast : (Happening.signup w action false).messages.getLast? with
  | none => exact absurd (List.getLast?_eq_none_iff.mp hlast) (List.ne_nil_of_mem htold)
  | some last =>
    -- Whatever success was the last to be known, its message is the same.
    have hsame : last = signupFlash := by
      obtain ⟨task, _, htask⟩ := List.mem_filterMap.mp (List.mem_of_getLast? hlast)
      cases task with
      | start other => cases htask
      | resume other met =>
        rcases news_cases other met with ⟨_, hother⟩ | ⟨_, hother⟩
        · exact Option.some.inj (htask.symm.trans hother)
        · cases htask.symm.trans hother
    rw [hlast, Option.some_or, hsame] at hmessage
    cases hafter : (Happening.signup w action false).after base slot
    rw [hafter] at hmessage
    exact congrArg Flash.mk hmessage

end Signup

/-- After any history an opening of the login page shows the last message that was set
since the page was last opened, if there is one, and takes it out; over the whole history
no message is shown twice. Other pages show none, look the same whatever the slot holds,
and leave it alone. So do open pages, but for a success that the sign-up page comes to
know: it sets its message. -/
theorem flash_shown_once (base : Base) (history : List Happening) :
    let slot := slotAfter base history
    (∀ path browser,
      let login := opened base slot path .login browser
      notices login.1 = (recent history).getLast?.toList ∧
      (notices login.1 ≠ [] ↔ recent history ≠ []) ∧ login.2 = .empty) ∧
    (noticesIn base .empty history).Sublist (history.flatMap Happening.messages) ∧
    (∀ route, route ≠ .login → ∀ path browser,
      let page := opened base slot path route browser
      notices page.1 = [] ∧ page.2 = slot ∧
      ∀ other, (opened base other path route browser).1 = page.1) ∧
    (∀ w action,
      ((∀ registration outcome, .resume registration outcome ∈ w.heard action →
          ¬ Succeeds outcome) →
        ∀ hold, (Happening.signup w action hold).after base slot = slot) ∧
      ((∃ registration outcome, .resume registration outcome ∈ w.heard action ∧
          Succeeds outcome) →
        (Happening.signup w action false).after base slot = ⟨some signupFlash⟩)) ∧
    (∀ w action hold, (Happening.login w action hold).after base slot = slot) ∧
    ∀ w action hold, (Happening.dashboard w action hold).after base slot = slot := by
  intro slot
  have hslot : slot.message = (recent history).getLast? := slotAfter_message base history
  refine ⟨?_, noticesIn_sublist base .empty history, ?_, ?_, ?_, ?_⟩
  · intro path browser
    simp only [opened_login, notices_login, hslot]
    refine ⟨trivial, ?_, trivial⟩
    rw [ne_eq, Option.toList_eq_nil_iff, List.getLast?_eq_none_iff]
  · intro route hroute path browser
    cases route with
    | login => exact absurd rfl hroute
    | signup => simp only [opened_signup, notices_signup, implies_true, and_self]
    | dashboard => simp only [opened_dashboard, notices_waitingView, implies_true, and_self]
  · intro w action
    constructor
    · exact fun hrefused hold =>
        after_eq_self base slot rfl (messages_signup_eq_nil w action hold hrefused)
    · rintro ⟨registration, outcome, hmem, hs⟩
      exact after_signup_of_success base slot w action hmem hs
  · exact fun w action hold => after_eq_self base slot rfl rfl
  · exact fun w action hold => after_eq_self base slot rfl rfl

end AccountPortal.Page
