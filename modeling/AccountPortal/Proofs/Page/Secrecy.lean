import AccountPortal.Page.Login
import AccountPortal.Page.Signup
import AccountPortal.Proofs.Backend.HiddenToken
import AccountPortal.Proofs.Browser.Twin

/-!
Secrets stay hidden. Whoever sees all but the bodies of the requests cannot tell one
password from another: it is nowhere in an answer, in the log or on a page, and in the
body it has one place. The sign-up page says whether a password is long enough and is
repeated, so there both must be long enough. Nor can anyone who sees all but the value
of one header tell one token from another.
-/
namespace AccountPortal.Page

open Backend Backend.Dialogue Browser Cookie Form HiddenToken Http Json Markup

namespace Login

/-- The same event, or the one password in the place of the other. -/
inductive Swapped (p q : String) : Event → Event → Prop
  | same (e : Event) : Swapped p q e e
  | secret (field : LoginField) : Swapped p q (.edit field p) (.edit field q)

/-- The two pages differ in what has been typed, if at all. -/
def Alike (s t : State) : Prop := ∃ form, t = { s with form := form }

/-- What the page shows, and the message that it leaves. -/
def sight (path : List Char) (s : State) : String × Flash := (html (view path s), s.flash)

theorem sight_alike (path : List Char) (s t : State) (h : Alike s t) :
    sight path s = sight path t := by
  obtain ⟨form, rfl⟩ := h
  rfl

variable {p q : String} {s t : State}

theorem handle_alike {e f : Event} (h : Alike s t) (hef : Swapped p q e f) :
    ReactionTwin Alike (fun _ _ => True) (handle s e) (handle t f) := by
  obtain ⟨form, rfl⟩ := h
  cases hef with
  | secret field => exact .quiet ⟨_, rfl⟩
  | same e =>
    cases e with
    | edit field value => exact .quiet ⟨_, rfl⟩
    | provider tried => exact ⟨⟨form, rfl⟩, rfl, rfl, rfl, .nil⟩
    | submit =>
      by_cases hbusy : s.status.isBusy = true
      · simp only [handle, hbusy, if_true]
        exact ⟨⟨form, rfl⟩, rfl, rfl, rfl, .nil⟩
      · simp only [handle, hbusy]
        exact ⟨⟨form, rfl⟩, rfl, rfl, rfl, .cons trivial .nil⟩

theorem conclude_alike (outcome : LoginOutcome) (h : Alike s t) :
    ReactionTwin Alike (fun _ _ => True) (conclude s outcome) (conclude t outcome) := by
  obtain ⟨form, rfl⟩ := h
  cases outcome with
  | redirect route => exact ⟨⟨form, rfl⟩, rfl, rfl, rfl, .nil⟩
  | failed message => exact .quiet ⟨form, rfl⟩

theorem task_asks (credentials : Credentials) :
    (program.task credentials).method = .post ∧ (program.task credentials).path = loginPath :=
  ⟨rfl, rfl⟩

/-- Which credentials are sent has no part in how the page goes on. -/
theorem keeps_alike : Keeps Alike (Swapped p q) (fun _ _ => True) program where
  handle := handle_alike
  settle := .quiet
  asks _ := by simp only [task_asks, and_self]
  concludes {a b} outcome jar _ _ _ h := by
    have hend : (submitLogin a).conclude outcome jar = (submitLogin b).conclude outcome jar := rfl
    refine ⟨rfl, ?_⟩
    simp only [program, Exchange.map, Exchange.andThen, hend]
    exact conclude_alike _ h

end Login

namespace Signup

/-- The same event, or the one password in the place of the other. The two fields for
the password hold nothing else. -/
inductive Swapped (p q : String) : Event → Event → Prop
  | username (text : String) : Swapped p q (.edit .username text) (.edit .username text)
  | email (text : String) : Swapped p q (.edit .email text) (.edit .email text)
  | password : Swapped p q (.edit .password p) (.edit .password q)
  | confirmation : Swapped p q (.edit .confirmation p) (.edit .confirmation q)
  | submit : Swapped p q .submit .submit
  | provider (tried : Provider) : Swapped p q (.provider tried) (.provider tried)

/-- The two fields are both empty, or each has its own password. -/
inductive Entered (p q : String) : String → String → Prop
  | nothing : Entered p q "" ""
  | secret : Entered p q p q

structure FormAlike (p q : String) (f g : SignupForm) : Prop where
  username : f.username = g.username
  email : f.email = g.email
  password : Entered p q f.password g.password
  confirmation : Entered p q f.confirmation g.confirmation

structure Alike (p q : String) (s t : State) : Prop where
  form : FormAlike p q s.form t.form
  status : s.status = t.status
  tried : s.tried = t.tried
  flash : s.flash = t.flash

def SameName (a b : Registration) : Prop := a.username = b.username

def sight (path : List Char) (s : State) : String × Flash := (html (view path s), s.flash)

variable {p q : String}

theorem sight_alike (path : List Char) (s t : State) (h : Alike p q s t) :
    sight path s = sight path t := by
  simp only [sight, view, Input.view, h.status, h.tried, h.flash]

section Entered

variable (hp : 6 ≤ p.length) (hq : 6 ≤ q.length)

include hp hq

/-- Whether a field is empty, or repeats another, is the same with either password. -/
theorem Entered.eq_iff {a b c d : String} (h : Entered p q a c) (h' : Entered p q b d) :
    a = b ↔ c = d := by
  have hp' : p ≠ "" := by
    rintro rfl
    simp at hp
  have hq' : q ≠ "" := by
    rintro rfl
    simp at hq
  cases h with
  | nothing =>
    cases h' with
    | nothing => exact Iff.rfl
    | secret => exact iff_of_false hp'.symm hq'.symm
  | secret =>
    cases h' with
    | nothing => exact iff_of_false hp' hq'
    | secret => exact iff_of_true rfl rfl

theorem Entered.short_iff {a c : String} (h : Entered p q a c) :
    a.length < SignupForm.leastPasswordLength ↔ c.length < SignupForm.leastPasswordLength := by
  cases h with
  | nothing => exact Iff.rfl
  | secret =>
    rw [SignupForm.leastPasswordLength]
    exact iff_of_false (by omega) (by omega)

/-- Passwords that are long enough violate the same rule of the form, or none. -/
theorem validate_alike {f g : SignupForm} (h : FormAlike p q f g) :
    f.validate.map (·.username) = g.validate.map (·.username) := by
  have hempty := Entered.eq_iff hp hq h.password .nothing
  have hshort := Entered.short_iff hp hq h.password
  have hrepeated := Entered.eq_iff hp hq h.password h.confirmation
  simp only [SignupForm.validate, h.username, h.email, ne_eq, hempty, hshort, hrepeated,
    apply_ite (Except.map fun r : Registration => r.username)]
  simp only [Except.map]

end Entered

variable {s t : State}

theorem submit_alike (hp : 6 ≤ p.length) (hq : 6 ≤ q.length) (h : Alike p q s t) :
    ReactionTwin (Alike p q) SameName (handle s .submit) (handle t .submit) := by
  by_cases hbusy : s.status.isBusy = true
  · have hbusy' : t.status.isBusy = true := h.status ▸ hbusy
    simp only [handle, hbusy, hbusy', if_true]
    exact ⟨h, rfl, rfl, rfl, .nil⟩
  · have hbusy' : ¬ t.status.isBusy = true := h.status ▸ hbusy
    have hchecked := validate_alike hp hq h.form
    simp only [handle, hbusy, hbusy']
    cases hs : s.form.validate with
    | error rule =>
      cases ht : t.form.validate with
      | error other =>
        obtain rfl : rule = other := by simpa [hs, ht, Except.map] using hchecked
        exact ⟨{ h with status := rfl }, rfl, rfl, rfl, .nil⟩
      | ok registration => simp [hs, ht, Except.map] at hchecked
    | ok registration =>
      cases ht : t.form.validate with
      | error other => simp [hs, ht, Except.map] at hchecked
      | ok other =>
        have hname : SameName registration other := by
          simpa [hs, ht, Except.map, SameName] using hchecked
        exact ⟨{ h with status := rfl }, rfl, rfl, rfl, .cons hname .nil⟩

theorem handle_alike (hp : 6 ≤ p.length) (hq : 6 ≤ q.length) {e f : Event} (h : Alike p q s t)
    (hef : Swapped p q e f) :
    ReactionTwin (Alike p q) SameName (handle s e) (handle t f) := by
  cases hef with
  | username text => exact .quiet { h with form := { h.form with username := rfl } }
  | email text => exact .quiet { h with form := { h.form with email := rfl } }
  | password => exact .quiet { h with form := { h.form with password := .secret } }
  | confirmation => exact .quiet { h with form := { h.form with confirmation := .secret } }
  | submit => exact submit_alike hp hq h
  | provider tried => exact ⟨{ h with tried := rfl }, rfl, rfl, rfl, .nil⟩

theorem conclude_alike (outcome : SignupOutcome) (h : Alike p q s t) :
    ReactionTwin (Alike p q) SameName (conclude s outcome) (conclude t outcome) := by
  cases outcome with
  | redirect route message =>
    exact ⟨{ h with status := rfl, flash := rfl }, rfl, rfl, rfl, .nil⟩
  | failed message => exact .quiet { h with status := rfl }

/-- An answer and the log depend on a registration only through its name. -/
theorem registerAccount_congr {a b : Registration} (h : SameName a b) (outcome : Outcome)
    (jar : Jar) :
    (registerAccount a).conclude outcome jar = (registerAccount b).conclude outcome jar := by
  have hname : a.username = b.username := h
  simp only [registerAccount, Exchange.andThen, register, Call.of, hname]

theorem task_asks (registration : Registration) :
    (program.task registration).method = .post ∧
    (program.task registration).path = registerPath :=
  ⟨rfl, rfl⟩

theorem keeps_alike (hp : 6 ≤ p.length) (hq : 6 ≤ q.length) :
    Keeps (Alike p q) (Swapped p q) SameName program where
  handle := handle_alike hp hq
  settle := .quiet
  asks _ := by simp only [task_asks, and_self]
  concludes outcome jar _ _ hname h := by
    have hend := registerAccount_congr hname outcome jar
    simp only [program, Exchange.map, Exchange.andThen, hend, true_and]
    exact conclude_alike _ h

end Signup

/-- Operations that differ in a secret come to the same, except that each sends its own
secret at one place of the body. -/
def HiddenInBody (base : Base) (jar : Jar) (reply : Reply) (path : String)
    (op : String → Operation) : Prop :=
  ∃ before after : List Char, ∀ p q,
    let mine := perform base jar (op p) reply
    let yours := perform base jar (op q) reply
    mine.step.answer = yours.step.answer ∧ mine.step.log = yours.step.log ∧
    mine.after = yours.after ∧
    mine.step.sent = [buildRequest base jar .post path
      (some (String.ofList (before ++ writeString p ++ after)))]

section Hidden

variable (base : Base) (jar : Jar) (reply : Reply)

/-- A secret is hidden in the body if the exchanges differ nowhere else. -/
theorem hidden_of_plan (conclude : Outcome → Jar → Answer × List LogLine) {path : String}
    {op : String → Operation} {before after : List Char}
    (h : ∀ p, (op p).plan = .exchange
      ⟨.post, path, some (String.ofList (before ++ writeString p ++ after)), conclude⟩) :
    HiddenInBody base jar reply path op := by
  refine ⟨before, after, ?_⟩
  intro p q
  simp only [perform_exchange base jar _ reply (h p), perform_exchange base jar _ reply (h q)]
  exact ⟨trivial, rfl, trivial, rfl⟩

theorem submitLogin_hidden (email : String) :
    HiddenInBody base jar reply "/auth/login/" fun p => .submitLogin ⟨email, p⟩ := by
  let before := '\x7b' :: writeString "email" ++ ':' :: writeString email ++
    ',' :: writeString "password" ++ [':']
  have hbody (p : String) : (Credentials.json ⟨email, p⟩).compact =
      String.ofList (before ++ writeString p ++ ['\x7d']) := by
    simp [Value.compact, Credentials.json, Value.write, writeMembers, before]
  apply hidden_of_plan base jar reply ((submitLogin ⟨email, ""⟩).map Answer.login).conclude
  intro p
  rw [← hbody p]
  rfl

theorem registerAccount_hidden (username email : String) :
    HiddenInBody base jar reply "/auth/register/" fun p =>
      .registerAccount ⟨username, email, p⟩ := by
  let before := '\x7b' :: writeString "username" ++ ':' :: writeString username ++
    ',' :: writeString "email" ++ ':' :: writeString email ++
    ',' :: writeString "password" ++ [':']
  have hbody (p : String) : (Registration.json ⟨username, email, p⟩).compact =
      String.ofList (before ++ writeString p ++ ['\x7d']) := by
    simp [Value.compact, Registration.json, Value.write, writeMembers, before]
  apply hidden_of_plan base jar reply
    ((registerAccount ⟨username, email, ""⟩).map Answer.signup).conclude
  intro p
  rw [← hbody p]
  rfl

end Hidden

/-- No secret can be told from another: not by what the two flows answer and log, not by
what a page shows after each of any events and replies, held back or not, and not by the
answers and the log of a session, if it is a token that its cookie strings leave open. -/
theorem secrets_stay_hidden (base : Base) :
    (∀ jar reply email,
      HiddenInBody base jar reply "/auth/login/" fun p => .submitLogin ⟨email, p⟩) ∧
    (∀ jar reply username email,
      HiddenInBody base jar reply "/auth/register/" fun p =>
        .registerAccount ⟨username, email, p⟩) ∧
    (∀ p q path jar flash actions others, ScriptTwin (Login.Swapped p q) actions others →
      watchFrom Login.program base (Login.sight path) jar (.quiet (Login.mount flash)) actions =
        watchFrom Login.program base (Login.sight path) jar (.quiet (Login.mount flash)) others) ∧
    (∀ p q, 6 ≤ p.length → 6 ≤ q.length →
      ∀ path jar flash actions others, ScriptTwin (Signup.Swapped p q) actions others →
        watchFrom Signup.program base (Signup.sight path) jar (.quiet (Signup.mount flash))
            actions =
          watchFrom Signup.program base (Signup.sight path) jar (.quiet (Signup.mount flash))
            others) ∧
    (∀ (t u : Token) (store : Store) (script : List Cue),
      (play base (store.jar t) (script.map (Cue.move t))).1.map upshot =
        (play base (store.jar u) (script.map (Cue.move u))).1.map upshot) := by
  refine ⟨?_, ?_, ?_, ?_, ?_⟩
  · exact fun jar reply => submitLogin_hidden base jar reply
  · exact fun jar reply => registerAccount_hidden base jar reply
  · intro p q path jar flash actions others hactions
    exact watchFrom_twin base Login.keeps_alike (Login.sight_alike path) jar
      (.quiet ⟨_, rfl⟩) hactions
  · intro p q hp hq path jar flash actions others hactions
    have hempty : Signup.FormAlike p q .empty .empty := ⟨rfl, rfl, .nothing, .nothing⟩
    have hnew : Signup.Alike p q (Signup.mount flash) (Signup.mount flash) :=
      ⟨hempty, rfl, rfl, rfl⟩
    exact watchFrom_twin base (Signup.keeps_alike hp hq) (Signup.sight_alike path) jar
      (.quiet hnew) hactions
  · exact fun t u store script => play_congr t u base store script

/-- A form filled in with a password, sent, and accepted. -/
def signingUp (p : String) : List (Action Signup.Event × Bool) :=
  [(.event (.edit .username "alice"), false), (.event (.edit .email "a@b.c"), true),
    (.event (.edit .password p), false), (.event (.edit .confirmation p), false),
    (.event .submit, false), (.reply (.answered 201 none) (some "csrftoken=t"), false)]

theorem secrets_stay_hidden_signingUp :
    watchFrom Signup.program .default (Signup.sight []) none (.quiet (Signup.mount .empty))
        (signingUp "secret") =
      watchFrom Signup.program .default (Signup.sight []) none (.quiet (Signup.mount .empty))
        (signingUp "hunter2\"<&") := by
  have htwin : ScriptTwin (Signup.Swapped "secret" "hunter2\"<&") (signingUp "secret")
      (signingUp "hunter2\"<&") := by
    refine .cons ⟨.event (.username _), rfl⟩ (.cons ⟨.event (.email _), rfl⟩ ?_)
    refine .cons ⟨.event .password, rfl⟩ (.cons ⟨.event .confirmation, rfl⟩ ?_)
    exact .cons ⟨.event .submit, rfl⟩ (.cons ⟨.reply _ _, rfl⟩ .nil)
  exact (secrets_stay_hidden .default).2.2.2.1 "secret" "hunter2\"<&" (by decide) (by decide)
    [] none .empty _ _ htwin

end AccountPortal.Page
