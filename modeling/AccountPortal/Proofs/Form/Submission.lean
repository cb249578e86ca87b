import AccountPortal.Form.Login
import AccountPortal.Proofs.Backend.Dialogue
import AccountPortal.Proofs.Form.FirstViolation
import AccountPortal.Proofs.Form.TextObject
import AccountPortal.Proofs.Json.Record
import Mathlib.Data.List.Induction
import Mathlib.Tactic.SplitIfs

/-!
What was typed is what is sent. A field holds the last value that was typed into it
since the form was last emptied, and what a form asks for are the values of its
fields as they are. They go into the body of the one request as strings of an
object, and whoever reads that body finds them again, character for character.
-/
namespace AccountPortal.Form

open Backend Backend.Dialogue Cookie Json

/-- What a visitor does to a form before submitting it. -/
inductive Keystroke where
  | set (field : SignupField) (value : String)
  | reset
  deriving DecidableEq

namespace Keystroke

def apply (form : SignupForm) : Keystroke → SignupForm
  | .set field value => form.set field value
  | .reset => .empty

/-- The value that is typed into a field. -/
def valueFor? (field : SignupField) : Keystroke → Option String
  | .set other value => if other = field then some value else none
  | .reset => none

end Keystroke

/-- A new form after some steps. -/
def filledIn (steps : List Keystroke) : SignupForm := steps.foldl Keystroke.apply .empty

/-- The steps after the last reset. -/
def sinceReset (steps : List Keystroke) : List Keystroke :=
  (steps.reverse.takeWhile fun step => step ≠ .reset).reverse

/-- The values typed into a field since the last reset, in order. -/
def typed (field : SignupField) (steps : List Keystroke) : List String :=
  (sinceReset steps).filterMap (Keystroke.valueFor? field)

theorem typed_set (field other : SignupField) (value : String) (steps : List Keystroke) :
    typed other (steps ++ [.set field value]) =
      typed other steps ++ if field = other then [value] else [] := by
  by_cases h : field = other
  · simp [typed, sinceReset, Keystroke.valueFor?, h]
  · simp [typed, sinceReset, Keystroke.valueFor?, h]

theorem typed_reset (field : SignupField) (steps : List Keystroke) :
    typed field (steps ++ [.reset]) = [] := by
  simp [typed, sinceReset]

/-- A field holds what was typed into it last, and nothing if nothing was typed. -/
theorem get_filledIn (field : SignupField) (steps : List Keystroke) :
    (filledIn steps).get field = (typed field steps).getLast?.getD "" := by
  induction steps using List.reverseRecOn with
  | nil => cases field <;> rfl
  | append_singleton steps step ih =>
    rw [filledIn, List.foldl_append, List.foldl_cons, List.foldl_nil]
    cases step with
    | set other value =>
      rw [Keystroke.apply, SignupForm.get_set, typed_set, ← filledIn, ih]
      by_cases h : other = field
      · simp [h]
      · simp [h]
    | reset =>
      rw [typed_reset]
      cases field <;> rfl

/-- A field that is not empty holds a value that was typed. -/
theorem getLast?_typed (field : SignupField) {steps : List Keystroke}
    (h : (filledIn steps).get field ≠ "") :
    (typed field steps).getLast? = some ((filledIn steps).get field) := by
  rw [get_filledIn] at h ⊢
  cases hlast : (typed field steps).getLast? with
  | none => simp [hlast] at h
  | some value => rfl

/-- A form that asks for a registration fills all of its fields. -/
theorem SignupForm.fields_ne_empty {form : SignupForm} {registration : Registration}
    (h : form.validate = .ok registration) :
    form.username ≠ "" ∧ form.email ≠ "" ∧ form.password ≠ "" := by
  unfold validate at h
  refine ⟨?_, ?_, ?_⟩
  · intro hempty
    have hblank : Text.blank form.username = true := by rw [hempty]; rfl
    split_ifs at h
  · intro hempty
    have hblank : Text.blank form.email = true := by rw [hempty]; rfl
    split_ifs at h
  · intro hempty
    split_ifs at h

theorem normal_registration (username email password : String) :
    (textObject [("username", username), ("email", email), ("password", password)]).normal =
      textObject [("email", email), ("password", password), ("username", username)] := by
  have hfirst : "email" < "username" := by decide
  have hsecond : ¬ "password" < "email" := by decide
  have hthird : "password" < "username" := by decide
  have hother : "password" ≠ "email" := by decide
  simp only [textObject, List.map_cons, List.map_nil, Value.normal, Value.normalMembers,
    Value.sortMembers, List.foldl_cons, List.foldl_nil, Value.insertMember, if_pos hfirst,
    if_neg hsecond, if_neg hother, if_pos hthird]

theorem normal_credentials (email password : String) :
    (textObject [("email", email), ("password", password)]).normal =
      textObject [("email", email), ("password", password)] := by
  have hsecond : ¬ "password" < "email" := by decide
  have hother : "password" ≠ "email" := by decide
  simp only [textObject, List.map_cons, List.map_nil, Value.normal, Value.normalMembers,
    Value.sortMembers, List.foldl_cons, List.foldl_nil, Value.insertMember, if_neg hsecond,
    if_neg hother]

theorem LoginForm.shape_agrees : LoginForm.form.shape.Agrees := by
  apply Shape.AgreesOn.agrees
  apply RecordForm.shape_agreesOn _ literal_spelling
  simp only [LoginForm.form, Field.of, List.forall_mem_cons, List.not_mem_nil, false_implies,
    implies_true, and_true]
  have htext := Shape.text_agreesOn literal_spelling
  exact ⟨htext.map _, htext.map _⟩

theorem LoginForm.decode_json (form : LoginForm) :
    LoginForm.decode form.json.compact = .ok form := by
  have hfits : form.json.Fits :=
    fits_textObject [("email", form.email), ("password", form.password)]
  exact (LoginForm.shape_agrees.decode_compact hfits.integral).mpr rfl

section Sent

variable (base : Base) (jar : Jar) (reply : Reply)

theorem sent_signup {form : SignupForm} {registration : Registration}
    (h : form.validate = .ok registration) :
    (perform base jar (.signup form) reply).step.sent =
      [buildRequest base jar .post registerPath (some registration.json.compact)] := by
  have hplan : (Operation.signup form).plan =
      .exchange ((registerAccount registration).map .signup) := by
    simp only [Operation.plan, h]
  rw [perform_exchange base jar _ reply hplan]
  rfl

theorem sent_submitLogin (credentials : Credentials) :
    (perform base jar (.submitLogin credentials) reply).step.sent =
      [buildRequest base jar .post loginPath (some credentials.json.compact)] := by
  rw [perform_exchange base jar _ reply rfl]
  rfl

end Sent

/-- Whatever was typed into a sign-up form and emptied before, if the form is accepted
then the body of the one request for it is an object of the name, the address and the
password, as each was typed last; the confirmation stays here. A login form is sent in
the same way, and its body decodes as the form. -/
theorem typed_is_sent (base : Base) (jar : Jar) (reply : Reply) :
    (∀ steps registration, (filledIn steps).validate = .ok registration →
      ∃ username email password text,
        (typed .username steps).getLast? = some username ∧
        (typed .email steps).getLast? = some email ∧
        (typed .password steps).getLast? = some password ∧
        (perform base jar (.signup (filledIn steps)) reply).step.sent =
          [buildRequest base jar .post "/auth/register/" (some text)] ∧
        Json.decode readTree text = .ok (.object [("username", .string username),
          ("email", .string email), ("password", .string password)]) ∧
        Json.parse text = .ok (.object [("email", .string email),
          ("password", .string password), ("username", .string username)])) ∧
    (∀ form : LoginForm, ∃ text,
      (perform base jar (.submitLogin form.credentials) reply).step.sent =
        [buildRequest base jar .post "/auth/login/" (some text)] ∧
      Json.decode readTree text = .ok (.object [("email", .string form.email),
        ("password", .string form.password)]) ∧
      Json.parse text = .ok (.object [("email", .string form.email),
        ("password", .string form.password)]) ∧
      LoginForm.decode text = .ok form) := by
  constructor
  · intro steps registration h
    obtain ⟨husername, hemail, hpassword⟩ := SignupForm.fields_ne_empty h
    obtain ⟨-, hregistration⟩ := (filledIn steps).validate_eq_ok_iff.mp h
    let members := [("username", registration.username), ("email", registration.email),
      ("password", registration.password)]
    refine ⟨registration.username, registration.email, registration.password,
      (textObject members).compact, ?_, ?_, ?_, sent_signup base jar reply h,
      readTree_textObject members, ?_⟩
    · rw [hregistration]
      exact getLast?_typed .username husername
    · rw [hregistration]
      exact getLast?_typed .email hemail
    · rw [hregistration]
      exact getLast?_typed .password hpassword
    · rw [parse_textObject members (by simp [members, embeddedKey]), normal_registration]
      rfl
  · intro form
    let members := [("email", form.email), ("password", form.password)]
    refine ⟨(textObject members).compact, sent_submitLogin base jar reply form.credentials,
      readTree_textObject members, ?_, LoginForm.decode_json form⟩
    rw [parse_textObject members (by simp [members, embeddedKey]), normal_credentials]
    rfl

/-- A form that was emptied once, with quotes, backslashes, control characters, blanks at
the ends and a character beyond the basic plane. -/
def awkwardSteps : List Keystroke :=
  [.set .username "draft", .reset, .set .password "first", .set .username "al\"i\\ce",
    .set .email "a@b.c", .set .password " \x01\n\"\\😀 ", .set .confirmation " \x01\n\"\\😀 "]

theorem typed_is_sent_awkward :
    (filledIn awkwardSteps).validate = .ok ⟨"al\"i\\ce", "a@b.c", " \x01\n\"\\😀 "⟩ ∧
    ∃ username email password text,
      (typed .username awkwardSteps).getLast? = some username ∧
      (typed .email awkwardSteps).getLast? = some email ∧
      (typed .password awkwardSteps).getLast? = some password ∧
      (perform .default none (.signup (filledIn awkwardSteps))
        ⟨.error .unavailable, none⟩).step.sent =
          [buildRequest .default none .post "/auth/register/" (some text)] ∧
      Json.decode readTree text = .ok (.object [("username", .string username),
        ("email", .string email), ("password", .string password)]) ∧
      Json.parse text = .ok (.object [("email", .string email),
        ("password", .string password), ("username", .string username)]) := by
  have haccepted : (filledIn awkwardSteps).validate =
      .ok ⟨"al\"i\\ce", "a@b.c", " \x01\n\"\\😀 "⟩ := by decide +kernel
  exact ⟨haccepted,
    (typed_is_sent .default none ⟨.error .unavailable, none⟩).1 awkwardSteps _ haccepted⟩

end AccountPortal.Form
