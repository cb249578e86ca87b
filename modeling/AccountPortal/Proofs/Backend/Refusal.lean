import AccountPortal.Proofs.Backend.Verdict
import AccountPortal.Proofs.Json.Normal

/-!
What the login and the sign-up page say about a failed attempt. The body of a
refusal is heard only as an object, and of that only the last `error` and the
last `detail`, if they are strings and not empty. The page falls back on its own
words where it hears nothing, so what it says is never empty.
-/
namespace AccountPortal.Backend

open Http Cookie Json

/-- What members say under a name: the last value of that name, if it is a string
and not empty. -/
def said (name : String) (members : List (String × Value)) : Option String :=
  match (valuesOf name members).getLast? with
  | some (.string s) => if s = "" then none else some s
  | _ => none

theorem spokenMember?_normal (name : String) (members : List (String × Value)) :
    spokenMember? name (Value.sortMembers (Value.normalMembers members)) = said name members := by
  rw [spokenMember?, Value.text?_of_normal, said]
  cases (valuesOf name members).getLast? with
  | none => rfl
  | some v =>
    cases v with
    | string s =>
      by_cases hs : s = ""
      · simp [hs, Value.text?]
      · simp [hs, Value.text?]
    | _ => rfl

theorem spokenMember?_ne_empty (name : String) (members : List (String × Value)) :
    spokenMember? name members ≠ some "" := by
  unfold spokenMember?
  split
  · simp
  · rename_i hne
    exact hne

/-- The body of a refusal, if it is an object, says what its members say. -/
theorem parse_members {members : List (String × Value)} (h : Legible members)
    (hkeys : embeddedKey ∉ (Value.object members).keys) :
    Complaint.parse (Value.object members).compact =
      ⟨said "error" members, said "detail" members⟩ := by
  have hparse : Json.parse (Value.object members).compact =
      .ok (.object (Value.sortMembers (Value.normalMembers members))) :=
    parse_compact h.fits h.depth hkeys
  simp only [Complaint.parse, hparse, spokenMember?_normal]

theorem parse_of_no_object {body : String}
    (h : ∀ members, Json.parse body ≠ .ok (.object members)) :
    Complaint.parse body = ⟨none, none⟩ := by
  unfold Complaint.parse
  split
  · rename_i members hparse
    exact absurd hparse (h members)
  · rfl

theorem getD_ne_empty {text : Option String} {fallback : String} (htext : text ≠ some "")
    (hfallback : fallback ≠ "") : text.getD fallback ≠ "" := by
  cases text with
  | none => exact hfallback
  | some s => exact fun hs => htext (congrArg some hs)

theorem parse_ne_empty (body : String) :
    (Complaint.parse body).error ≠ some "" ∧ (Complaint.parse body).detail ≠ some "" := by
  unfold Complaint.parse
  split
  · exact ⟨spokenMember?_ne_empty _ _, spokenMember?_ne_empty _ _⟩
  · simp

/-- No failure of an attempt is met with silence. -/
theorem message_ne_empty {outcome : Outcome} {e : Error} (h : accepted outcome = .error e) :
    e.loginMessage ≠ "" ∧ e.signupMessage ≠ "" := by
  rcases accepted_cases outcome with ⟨failure, rfl, hacc⟩ | ⟨response, rfl, hs, hacc⟩ |
    ⟨code, body, rfl, hs, hacc⟩
  · rw [hacc] at h
    obtain rfl := Except.error.inj h
    simp [Error.loginMessage, Error.signupMessage, Error.serverError?, Error.serverDetail?]
  · rw [hacc] at h
    contradiction
  · rw [hacc] at h
    obtain rfl := Except.error.inj h
    obtain ⟨herror, hdetail⟩ := parse_ne_empty body
    constructor
    · exact getD_ne_empty herror (by decide)
    · apply getD_ne_empty _ (by decide)
      change (Complaint.parse body).error.or (Complaint.parse body).detail ≠ some ""
      cases hsaid : (Complaint.parse body).error with
      | none => exact hdetail
      | some s =>
        rw [hsaid] at herror
        exact herror

/-- The two pages on any outcome: a failure is never met with an empty message. An
object that came with a refusal has its say by `error`, and on the sign-up page by
`detail` after that; whatever else has happened, the pages fall back on their own
words. -/
theorem failure_messages (credentials : Credentials) (registration : Registration) (jar : Jar) :
    let login (outcome : Outcome) := (submitLogin credentials).result outcome jar
    let signup (outcome : Outcome) := (registerAccount registration).result outcome jar
    (∀ outcome message, login outcome = .failed message ∨ signup outcome = .failed message →
      message ≠ "") ∧
    (∀ status members, ¬ Success status → Legible members →
      "$serde_json::private::RawValue" ∉ (Value.object members).keys →
      login (.ok ⟨status, (Value.object members).compact⟩) =
        .failed ((said "error" members).getD "Login failed. Please try again.") ∧
      signup (.ok ⟨status, (Value.object members).compact⟩) =
        .failed (((said "error" members).or (said "detail" members)).getD
          "Signup failed. Please try again.")) ∧
    (∀ outcome,
      (∃ failure, outcome = .error failure) ∨
      (∃ status body, outcome = .ok ⟨status, body⟩ ∧ ¬ Success status ∧
        ∀ members, Json.parse body ≠ .ok (.object members)) →
      login outcome = .failed "Login failed. Please try again." ∧
      signup outcome = .failed "Signup failed. Please try again.") := by
  intro login signup
  have hrefused (status : Nat) (body : String) (hs : ¬ Success status) :
      accepted (.ok ⟨status, body⟩) = .error (.status status (Complaint.parse body)) :=
    if_neg fun h => hs ((isSuccess_iff _).mp h)
  have hfailed (outcome : Outcome) (e : Error) (h : accepted outcome = .error e) :
      login outcome = .failed e.loginMessage ∧ signup outcome = .failed e.signupMessage := by
    simp only [login, signup, Exchange.result, submitLogin_conclude, registerAccount_conclude, h,
      and_self]
  refine ⟨?_, ?_, ?_⟩
  · intro outcome message hmessage
    cases hacc : accepted outcome with
    | ok response =>
      simp [login, signup, Exchange.result, submitLogin_conclude, registerAccount_conclude,
        hacc] at hmessage
    | error e =>
      obtain ⟨hlogin, hsignup⟩ := hfailed outcome e hacc
      obtain ⟨hne, hne'⟩ := message_ne_empty hacc
      rw [hlogin, hsignup] at hmessage
      rcases hmessage with hmessage | hmessage
      · exact LoginOutcome.failed.inj hmessage ▸ hne
      · exact SignupOutcome.failed.inj hmessage ▸ hne'
  · intro status members hs hlegible hkeys
    have h := hfailed _ _ (hrefused status (Value.object members).compact hs)
    rw [parse_members hlegible hkeys] at h
    exact h
  · rintro outcome (⟨failure, rfl⟩ | ⟨status, body, rfl, hs, hbody⟩)
    · exact hfailed (.error failure) (.transport failure) rfl
    · have h := hfailed _ _ (hrefused status body hs)
      rw [parse_of_no_object hbody] at h
      exact h

/-- The last member of a name counts, even if it says nothing. -/
example : said "error" [("error", .string "taken"), ("error", .null)] = none := by decide +kernel

end AccountPortal.Backend
