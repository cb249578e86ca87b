import AccountPortal.Form.Signup
import AccountPortal.Proofs.Form.EmailPattern

/-!
Which rule of the sign-up form is reported: the first one in the order of checking that
the form does not pass. A form that passes all of them asks for a registration with its
values as they are. Each rule looks at some of the fields only, so what is typed into
fields that are looked at later has no part in what is reported.
-/
namespace AccountPortal.Form

open Text

namespace SignupRule

def inOrder : List SignupRule :=
  [.usernameRequired, .usernameTooShort, .emailRequired, .emailInvalid, .passwordRequired,
    .passwordTooShort, .passwordMismatch]

def before (rule : SignupRule) : List SignupRule := inOrder.takeWhile fun other => other ≠ rule

/-- What a rule asks of a form. -/
def Passes : SignupRule → SignupForm → Prop
  | .usernameRequired, form => ∃ c ∈ form.username.toList, isBlank c = false
  | .usernameTooShort, form => 3 ≤ form.username.toList.length
  | .emailRequired, form => ∃ c ∈ form.email.toList, isBlank c = false
  | .emailInvalid, form => Email.WellFormed form.email
  | .passwordRequired, form => form.password ≠ ""
  | .passwordTooShort, form => 6 ≤ form.password.toList.length
  | .passwordMismatch, form => form.password = form.confirmation

/-- The form does not pass the rule, but all rules before it. -/
def FirstViolated (rule : SignupRule) (form : SignupForm) : Prop :=
  ¬ rule.Passes form ∧ ∀ earlier ∈ rule.before, earlier.Passes form

/-- The fields that a rule looks at. -/
def fields : SignupRule → List SignupField
  | .usernameRequired | .usernameTooShort => [.username]
  | .emailRequired | .emailInvalid => [.email]
  | .passwordRequired | .passwordTooShort => [.password]
  | .passwordMismatch => [.password, .confirmation]

/-- The fields that have been looked at once a rule is checked. -/
def fieldsUpTo (rule : SignupRule) : List SignupField := (rule.before ++ [rule]).flatMap fields

theorem mem_inOrder (rule : SignupRule) : rule ∈ inOrder := by
  cases rule <;> decide

/-- The check whether a form violates a rule. -/
def violated (form : SignupForm) : SignupRule → Bool
  | .usernameRequired => blank form.username
  | .usernameTooShort => form.username.length < SignupForm.leastUsernameLength
  | .emailRequired => blank form.email
  | .emailInvalid => !Email.isValid form.email
  | .passwordRequired => form.password = ""
  | .passwordTooShort => form.password.length < SignupForm.leastPasswordLength
  | .passwordMismatch => form.password ≠ form.confirmation

theorem blank_eq_false_iff {s : String} : blank s = false ↔ ∃ c ∈ s.toList, isBlank c = false := by
  simp [blank, List.all_eq_false]

theorem violated_eq_false_iff (rule : SignupRule) (form : SignupForm) :
    rule.violated form = false ↔ rule.Passes form := by
  cases rule with
  | usernameRequired => exact blank_eq_false_iff
  | emailRequired => exact blank_eq_false_iff
  | emailInvalid =>
    rw [violated, Passes, Email.wellFormed_iff_isAddress, ← Email.isValid_iff_isAddress]
    simp
  | usernameTooShort =>
    rw [violated, Passes, decide_eq_false_iff_not, Nat.not_lt, String.length_toList]
    rfl
  | passwordTooShort =>
    rw [violated, Passes, decide_eq_false_iff_not, Nat.not_lt, String.length_toList]
    rfl
  | passwordRequired => simp [violated, Passes]
  | passwordMismatch => simp [violated, Passes]

/-- A search finds an element of the list exactly if it refuses all before it. -/
theorem find?_eq_some_iff_takeWhile {α : Type} [DecidableEq α] {p : α → Bool} {l : List α} {a : α}
    (ha : a ∈ l) :
    l.find? p = some a ↔ p a = true ∧ ∀ b ∈ l.takeWhile (fun b => b ≠ a), p b = false := by
  induction l with
  | nil => simp at ha
  | cons b l ih =>
    by_cases hb : b = a
    · subst hb
      cases hp : p b with
      | true => simp [hp]
      | false =>
        simp only [List.find?_cons, hp, Bool.false_eq_true, false_and, iff_false]
        intro hfind
        exact absurd (List.find?_some hfind) (by simp [hp])
    · have hmem : a ∈ l := (List.mem_cons.mp ha).resolve_left (Ne.symm hb)
      cases hp : p b with
      | true => simp [hp, hb]
      | false => simp [hp, hb, ih hmem]

theorem find?_violated {rule : SignupRule} {form : SignupForm} :
    inOrder.find? (violated form) = some rule ↔ rule.FirstViolated form := by
  rw [find?_eq_some_iff_takeWhile (mem_inOrder rule), FirstViolated, ← violated_eq_false_iff,
    Bool.not_eq_false]
  simp only [← violated_eq_false_iff, before]

def report (form : SignupForm) (rules : List SignupRule) : Except SignupRule Registration :=
  match rules.find? (violated form) with
  | some rule => .error rule
  | none => .ok ⟨form.username, form.email, form.password⟩

theorem report_cons (form : SignupForm) (rule : SignupRule) (rules : List SignupRule) :
    report form (rule :: rules) =
      if violated form rule = true then .error rule else report form rules := by
  rw [report, List.find?_cons]
  cases violated form rule <;> rfl

/-- The form is checked rule by rule. -/
theorem validate_eq_report (form : SignupForm) : form.validate = report form inOrder := by
  simp only [inOrder, report_cons, violated, decide_eq_true_eq, Bool.not_eq_true',
    ← Bool.not_eq_true]
  rfl

section Congr

variable {rule : SignupRule} {form other : SignupForm}

theorem passes_congr (h : ∀ field ∈ rule.fields, other.get field = form.get field) :
    rule.Passes other ↔ rule.Passes form := by
  cases rule <;> simp_all [fields, SignupForm.get, Passes]

theorem firstViolated_congr (h : ∀ field ∈ rule.fieldsUpTo, other.get field = form.get field) :
    rule.FirstViolated other ↔ rule.FirstViolated form := by
  have hpasses {earlier : SignupRule} (hmem : earlier ∈ rule.before ++ [rule]) :
      earlier.Passes other ↔ earlier.Passes form :=
    passes_congr fun field hfield => h field (List.mem_flatMap.mpr ⟨earlier, hmem, hfield⟩)
  rw [FirstViolated, FirstViolated, hpasses (by simp)]
  apply and_congr_right
  intro _
  exact forall₂_congr fun earlier hmem => hpasses (List.mem_append_left _ hmem)

/-- Only the last rule looks at the confirmation. -/
theorem confirmation_not_mem_fieldsUpTo (h : rule ≠ .passwordMismatch) :
    .confirmation ∉ rule.fieldsUpTo := by
  cases rule with
  | passwordMismatch => exact absurd rfl h
  | _ => decide

end Congr

end SignupRule

namespace SignupForm

open SignupRule

variable (form : SignupForm)

theorem get_set (field other : SignupField) (value : String) :
    (form.set field value).get other = if field = other then value else form.get other := by
  cases field <;> cases other <;> rfl

theorem validate_eq_error_iff {rule : SignupRule} :
    form.validate = .error rule ↔ rule.FirstViolated form := by
  rw [validate_eq_report, report, ← find?_violated]
  cases inOrder.find? (violated form) <;> simp

theorem validate_eq_ok_iff {registration : Registration} :
    form.validate = .ok registration ↔
      (∀ rule : SignupRule, rule.Passes form) ∧
        registration = ⟨form.username, form.email, form.password⟩ := by
  rw [validate_eq_report, report]
  cases hfind : inOrder.find? (violated form) with
  | some rule =>
    have hviolated := (find?_violated.mp hfind).1
    simp only [reduceCtorEq, false_iff, not_and]
    exact fun hpasses => absurd (hpasses rule) hviolated
  | none =>
    have hpasses (rule : SignupRule) : rule.Passes form := by
      rw [← violated_eq_false_iff]
      simpa using List.find?_eq_none.mp hfind rule (mem_inOrder rule)
    simp only [Except.ok.injEq, eq_comm (a := registration)]
    exact (and_iff_right hpasses).symm

/-- What is reported does not depend on fields that are looked at later. -/
theorem validate_error_congr {rule : SignupRule} {other : SignupForm}
    (h : ∀ field ∈ rule.fieldsUpTo, other.get field = form.get field) :
    other.validate = .error rule ↔ form.validate = .error rule := by
  rw [validate_eq_error_iff, validate_eq_error_iff, firstViolated_congr h]

theorem validate_set_confirmation {rule : SignupRule} (h : rule ≠ .passwordMismatch)
    (confirmation : String) :
    (form.set .confirmation confirmation).validate = .error rule ↔ form.validate = .error rule := by
  apply validate_error_congr
  intro field hfield
  cases field with
  | confirmation => exact absurd hfield (confirmation_not_mem_fieldsUpTo h)
  | _ => rfl

/-- Another confirmation turns a form that is accepted into one whose passwords differ,
or the other way round, if it changes the answer at all. -/
theorem validate_set_confirmation_cases (confirmation : String) :
    let registration : Registration := ⟨form.username, form.email, form.password⟩
    let changed := form.set .confirmation confirmation
    changed.validate = form.validate ∨
      (form.validate = .ok registration ∧ changed.validate = .error .passwordMismatch) ∨
      (form.validate = .error .passwordMismatch ∧ changed.validate = .ok registration) := by
  intro registration changed
  have hother {rule : SignupRule} (h : rule ≠ .passwordMismatch) :=
    form.validate_set_confirmation h confirmation
  cases hform : form.validate with
  | ok r =>
    obtain ⟨_, rfl⟩ := form.validate_eq_ok_iff.mp hform
    cases hchanged : changed.validate with
    | ok r' =>
      obtain ⟨_, rfl⟩ := changed.validate_eq_ok_iff.mp hchanged
      exact Or.inl rfl
    | error rule =>
      by_cases hrule : rule = .passwordMismatch
      · subst hrule
        exact Or.inr (Or.inl ⟨rfl, rfl⟩)
      · have := (hother hrule).mp hchanged
        rw [hform] at this
        contradiction
  | error rule =>
    by_cases hrule : rule = .passwordMismatch
    · subst hrule
      cases hchanged : changed.validate with
      | ok r' =>
        obtain ⟨_, rfl⟩ := changed.validate_eq_ok_iff.mp hchanged
        exact Or.inr (Or.inr ⟨rfl, rfl⟩)
      | error rule' =>
        by_cases hrule' : rule' = .passwordMismatch
        · exact Or.inl (by rw [hrule'])
        · have := (hother hrule').mp hchanged
          rw [hform, Except.error.injEq] at this
          exact absurd this.symm hrule'
    · exact Or.inl ((hother hrule).mpr hform)

/-- A form is refused for the first rule that it violates and accepted if it violates
none, and then it asks for what was typed. Of the confirmation only the last rule takes
note, and no rule takes note of fields that are looked at later. -/
theorem validate_first_violated :
    (∀ rule : SignupRule, form.validate = .error rule ↔ rule.FirstViolated form) ∧
    ((∃ registration, form.validate = .ok registration) ↔ ∀ rule : SignupRule, rule.Passes form) ∧
    (∀ registration, form.validate = .ok registration →
      registration = ⟨form.username, form.email, form.password⟩ ∧
      ∀ c ∈ registration.email.toList, isBlank c = false) ∧
    (∀ confirmation : String,
      let registration : Registration := ⟨form.username, form.email, form.password⟩
      let changed := form.set .confirmation confirmation
      changed.validate = form.validate ∨
        (form.validate = .ok registration ∧ changed.validate = .error .passwordMismatch) ∨
        (form.validate = .error .passwordMismatch ∧ changed.validate = .ok registration)) ∧
    (∀ (rule : SignupRule) (other : SignupForm),
      (∀ field ∈ rule.fieldsUpTo, other.get field = form.get field) →
      (other.validate = .error rule ↔ form.validate = .error rule)) := by
  refine ⟨fun rule => form.validate_eq_error_iff, ?_, ?_, form.validate_set_confirmation_cases,
    fun rule other => form.validate_error_congr⟩
  · constructor
    · rintro ⟨registration, hok⟩
      exact (form.validate_eq_ok_iff.mp hok).1
    · intro hpasses
      exact ⟨_, form.validate_eq_ok_iff.mpr ⟨hpasses, rfl⟩⟩
  · intro registration hok
    obtain ⟨hpasses, rfl⟩ := form.validate_eq_ok_iff.mp hok
    have hemail : Email.WellFormed form.email := hpasses .emailInvalid
    exact ⟨rfl, hemail.noBlank⟩

/-- A user name of two blanks in front of a letter is neither blank nor too short. -/
example : (⟨"  ä", "a@b.", "x", ""⟩ : SignupForm).validate = .error .emailInvalid := by
  decide +kernel

end SignupForm

end AccountPortal.Form
