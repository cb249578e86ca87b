import AccountPortal.Form.Status
import AccountPortal.Page.Component
import AccountPortal.Proofs.Backend.Verdict
import AccountPortal.Proofs.Browser.Round
import Mathlib.Data.List.Induction

/-!
The story of a page with a form: what its fields hold and what became of the
attempts to submit them, told from the actions alone. A program follows its
story when every reaction of the page is the one that the story calls for. Then
so does every run of the page: the world at its end, what was sent and where it
led are those of the story.
-/
namespace AccountPortal.Page

open Backend Browser Cookie Form Http

/-- An attempt to submit a form. -/
inductive Attempt (τ : Type) where
  /-- The form violated a rule, and nothing was sent. -/
  | refused (message : String)
  | pending (sent : τ)
  | answered (sent : τ) (outcome : Outcome)

/-- What happens to a page with a form whose fields are `φ`. -/
inductive Gesture (φ : Type) where
  | edit (field : φ) (value : String)
  | submit
  | provider (p : Provider)

/-- The latest attempt comes first. -/
structure Story (F τ : Type) where
  form : F
  tried : Option Provider
  attempts : List (Attempt τ)

/-- How a form is filled in, what it asks for unless it violates a rule, and what
is said about a call that failed. -/
structure Desk (φ F τ : Type) where
  set : F → φ → String → F
  check : F → Except String τ
  complaint : Error → String

/-- A status came back, and it is one of success. -/
def succeeded : Outcome → Bool
  | .ok response => 200 ≤ response.status && response.status ≤ 299
  | .error _ => false

theorem succeeded_iff (outcome : Outcome) : succeeded outcome = true ↔ Succeeds outcome := by
  cases outcome with
  | error failure => simp [succeeded, Succeeds]
  | ok response => simp [succeeded, Succeeds, Success]

namespace Attempt

variable {τ : Type}

/-- What waits for its outcome. -/
def awaited : List (Attempt τ) → List τ
  | .pending sent :: _ => [sent]
  | _ => []

def dispatched : List (Attempt τ) → List τ
  | [] => []
  | .refused _ :: past => dispatched past
  | .pending sent :: past => dispatched past ++ [sent]
  | .answered sent _ :: past => dispatched past ++ [sent]

def successes : List (Attempt τ) → Nat
  | [] => 0
  | .answered _ outcome :: past => successes past + (succeeded outcome).toNat
  | _ :: past => successes past

/-- Nothing is awaited, or it is the latest attempt. -/
theorem awaited_cases (attempts : List (Attempt τ)) :
    awaited attempts = [] ∨ ∃ sent past, attempts = .pending sent :: past := by
  cases attempts with
  | nil => exact Or.inl rfl
  | cons attempt past =>
    cases attempt with
    | refused message => exact Or.inl rfl
    | pending sent => exact Or.inr ⟨sent, past, rfl⟩
    | answered sent outcome => exact Or.inl rfl

theorem awaited_length_le (attempts : List (Attempt τ)) : (awaited attempts).length ≤ 1 := by
  rcases awaited_cases attempts with h | ⟨sent, past, rfl⟩
  · simp [h]
  · exact Nat.le_refl 1

end Attempt

open Attempt

namespace Desk

variable {φ F τ : Type} (desk : Desk φ F τ)

def failure? (outcome : Outcome) : Option String :=
  match accepted outcome with
  | .ok _ => none
  | .error e => some (desk.complaint e)

def error? : List (Attempt τ) → Option String
  | .refused message :: _ => some message
  | .answered _ outcome :: _ => desk.failure? outcome
  | _ => none

def status : List (Attempt τ) → Status
  | [] => .initial
  | .refused message :: _ => .failed message
  | .pending _ :: _ => .submitting
  | .answered _ outcome :: _ =>
    match desk.failure? outcome with
    | some message => .failed message
    | none => .succeeded

/-- What submitting the form starts: nothing while an attempt is under way. -/
def begins (story : Story F τ) : Gesture φ → List τ
  | .submit =>
    match awaited story.attempts, desk.check story.form with
    | [], .ok t => [t]
    | _, _ => []
  | _ => []

/-- The attempts after one more submission. -/
def submit (form : F) (attempts : List (Attempt τ)) : List (Attempt τ) :=
  match awaited attempts, desk.check form with
  | [], .ok t => .pending t :: attempts
  | [], .error message => .refused message :: attempts
  | _ :: _, _ => attempts

def hear (story : Story F τ) : Gesture φ → Story F τ
  | .edit field value => { story with form := desk.set story.form field value }
  | .provider p => { story with tried := some p }
  | .submit => { story with attempts := desk.submit story.form story.attempts }

end Desk

namespace Story

variable {F τ : Type}

/-- An outcome arrives for the attempt under way, if there is one. -/
def answer (story : Story F τ) (outcome : Outcome) : Story F τ :=
  match story.attempts with
  | .pending sent :: past => { story with attempts := .answered sent outcome :: past }
  | _ => story

theorem answer_of_none {attempts : List (Attempt τ)} (form : F) (tried : Option Provider)
    (h : awaited attempts = []) (outcome : Outcome) :
    answer ⟨form, tried, attempts⟩ outcome = ⟨form, tried, attempts⟩ := by
  cases attempts with
  | nil => rfl
  | cons attempt past =>
    cases attempt with
    | refused message => rfl
    | pending sent => cases h
    | answered sent outcome => rfl

/-- A page as it is found, with an empty form and nothing tried. -/
def start (form : F) : Story F τ := ⟨form, none, []⟩

end Story

section Status

variable {φ F τ : Type} (desk : Desk φ F τ)

theorem failure?_eq_none_iff (outcome : Outcome) :
    desk.failure? outcome = none ↔ succeeded outcome = true := by
  rw [succeeded_iff, succeeds_iff, Desk.failure?]
  cases accepted outcome with
  | ok response => simp
  | error e => simp

theorem succeeded_eq_false {outcome : Outcome} {message : String}
    (h : desk.failure? outcome = some message) : succeeded outcome = false := by
  rw [← Bool.not_eq_true, ← failure?_eq_none_iff desk, h]
  exact Option.some_ne_none message

theorem status_error? (attempts : List (Attempt τ)) :
    (desk.status attempts).error? = desk.error? attempts := by
  cases attempts with
  | nil => rfl
  | cons attempt past =>
    cases attempt with
    | refused message => rfl
    | pending sent => rfl
    | answered sent outcome =>
      simp only [Desk.status, Desk.error?]
      cases desk.failure? outcome with
      | none => rfl
      | some message => rfl

theorem status_isBusy (attempts : List (Attempt τ)) :
    (desk.status attempts).isBusy = !(awaited attempts).isEmpty := by
  cases attempts with
  | nil => rfl
  | cons attempt past =>
    cases attempt with
    | refused message => rfl
    | pending sent => rfl
    | answered sent outcome =>
      simp only [Desk.status]
      cases desk.failure? outcome with
      | none => rfl
      | some message => rfl

/-- A page is busy just while one attempt is under way. -/
theorem status_isBusy_iff (attempts : List (Attempt τ)) :
    (desk.status attempts).isBusy = true ↔ (awaited attempts).length = 1 := by
  rw [status_isBusy]
  rcases awaited_cases attempts with h | ⟨sent, past, rfl⟩
  · simp [h]
  · simp [awaited]

theorem status_ne_validating (attempts : List (Attempt τ)) :
    desk.status attempts ≠ .validating := by
  intro h
  cases attempts with
  | nil => cases h
  | cons attempt past =>
    cases attempt with
    | refused message => cases h
    | pending sent => cases h
    | answered sent outcome =>
      simp only [Desk.status] at h
      cases hf : desk.failure? outcome with
      | none => simp [hf] at h
      | some message => simp [hf] at h

end Status

section Run

variable {φ F σ ε τ : Type} (desk : Desk φ F τ) (read : ε → Gesture φ)

/-- The story after an action. -/
def Desk.note (story : Story F τ) : Action ε → Story F τ
  | .event e => desk.hear story (read e)
  | .reply fetched _ => story.answer fetched.outcome
  | .setCookies _ => story
  | .missed => story

def typed? [DecidableEq φ] (field : φ) : Action ε → Option String
  | .event e =>
    match read e with
    | .edit other value => if other = field then some value else none
    | _ => none
  | _ => none

/-- The value typed last into a field that is empty at first. -/
def lastTyped [DecidableEq φ] (field : φ) (actions : List (Action ε)) : String :=
  (actions.filterMap (typed? read field)).getLast?.getD ""

def Desk.starts (story : Story F τ) : Action ε → List τ
  | .event e => desk.begins story (read e)
  | _ => []

def Story.gains (story : Story F τ) : Action ε → Nat
  | .reply fetched _ => (awaited story.attempts).length * (succeeded fetched.outcome).toNat
  | _ => 0

theorem form_answer (story : Story F τ) (outcome : Outcome) :
    (story.answer outcome).form = story.form := by
  obtain ⟨form, tried, attempts⟩ := story
  rcases awaited_cases attempts with h | ⟨sent, past, rfl⟩
  · rw [Story.answer_of_none form tried h]
  · rfl

/-- A field holds what was typed into it last, whatever happens besides. -/
theorem form_note [DecidableEq φ] (field : φ) (get : F → String)
    (hget : ∀ form other value, get (desk.set form other value) =
      if other = field then value else get form)
    (story : Story F τ) (action : Action ε) :
    get (desk.note read story action).form =
      (typed? read field action).getD (get story.form) := by
  cases action with
  | event e =>
    simp only [Desk.note, typed?]
    cases read e with
    | edit other value =>
      simp only [Desk.hear, hget]
      split
      · rfl
      · rfl
    | submit => rfl
    | provider p => rfl
  | reply fetched cookies => exact congrArg get (form_answer story fetched.outcome)
  | setCookies jar => rfl
  | missed => rfl

theorem form_told [DecidableEq φ] (field : φ) (get : F → String)
    (hget : ∀ form other value, get (desk.set form other value) =
      if other = field then value else get form)
    (start : F) (hstart : get start = "") (actions : List (Action ε)) :
    get (actions.foldl (desk.note read) (.start start)).form = lastTyped read field actions := by
  induction actions using List.reverseRecOn with
  | nil => exact hstart
  | append_singleton earlier action ih =>
    rw [List.foldl_append, List.foldl_cons, List.foldl_nil, form_note desk read field get hget, ih,
      lastTyped, lastTyped, List.filterMap_append]
    cases h : typed? read field action with
    | none => simp [h]
    | some value => simp [h]

theorem dispatched_submit (story : Story F τ) :
    dispatched (desk.submit story.form story.attempts) =
      dispatched story.attempts ++ desk.begins story .submit := by
  simp only [Desk.submit, Desk.begins]
  cases awaited story.attempts with
  | cons sent rest => simp
  | nil =>
    cases desk.check story.form with
    | ok t => simp [dispatched]
    | error message => simp [dispatched]

theorem successes_submit (story : Story F τ) :
    successes (desk.submit story.form story.attempts) = successes story.attempts := by
  simp only [Desk.submit]
  cases awaited story.attempts with
  | cons sent rest => rfl
  | nil =>
    cases desk.check story.form with
    | ok t => rfl
    | error message => rfl

theorem dispatched_answer (story : Story F τ) (outcome : Outcome) :
    dispatched (story.answer outcome).attempts = dispatched story.attempts := by
  obtain ⟨form, tried, attempts⟩ := story
  rcases awaited_cases attempts with h | ⟨sent, past, rfl⟩
  · rw [Story.answer_of_none form tried h]
  · rfl

theorem successes_answer (story : Story F τ) (outcome : Outcome) :
    successes (story.answer outcome).attempts =
      successes story.attempts +
        (awaited story.attempts).length * (succeeded outcome).toNat := by
  obtain ⟨form, tried, attempts⟩ := story
  rcases awaited_cases attempts with h | ⟨sent, past, rfl⟩
  · simp [Story.answer_of_none form tried h, h]
  · simp [Story.answer, successes, awaited]

theorem dispatched_note (story : Story F τ) (action : Action ε) :
    dispatched (desk.note read story action).attempts =
      dispatched story.attempts ++ desk.starts read story action := by
  cases action with
  | event e =>
    simp only [Desk.note, Desk.starts]
    cases read e with
    | edit field value => simp [Desk.hear, Desk.begins]
    | provider p => simp [Desk.hear, Desk.begins]
    | submit => exact dispatched_submit desk story
  | reply fetched cookies =>
    simp only [Desk.note, Desk.starts, dispatched_answer, List.append_nil]
  | setCookies jar => simp [Desk.note, Desk.starts]
  | missed => simp [Desk.note, Desk.starts]

theorem successes_note (story : Story F τ) (action : Action ε) :
    successes (desk.note read story action).attempts =
      successes story.attempts + story.gains action := by
  cases action with
  | event e =>
    simp only [Desk.note, Story.gains]
    cases read e with
    | edit field value => rfl
    | provider p => rfl
    | submit => exact successes_submit desk story
  | reply fetched cookies => exact successes_answer story fetched.outcome
  | setCookies jar => rfl
  | missed => rfl

end Run

end AccountPortal.Page
