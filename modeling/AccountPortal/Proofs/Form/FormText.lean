import AccountPortal.Form.Signup
import AccountPortal.Proofs.Form.Submission
import AccountPortal.Proofs.Json.TextRecord

/-!
The two forms as texts. A form is written as an object of its fields, which are all strings,
and is read back from that text. It is read from every object that has each field once as a
string, in any order and among any other members, and from the array of its strings in the
order of the fields, but from no other object or array.
-/
namespace AccountPortal.Form

open Json Json.Literal

open Json.Field (Gathered fillAll?_of gathered_text_eq_some)

/-- A record that is made up of strings under fixed names. -/
structure OfTexts {σ α : Type} (form : RecordForm σ α) (texts : α → List (String × String))
    (names : List String) : Prop where
  requiresText : ∀ f ∈ form.fields, f.RequiresText
  fields_ne_nil : form.fields ≠ []
  map_fst : ∀ a, (texts a).map (·.1) = names
  exists_eq : ∀ pairs, pairs.map (·.1) = names → ∃ a, texts a = pairs
  written : ∀ a, form.ofTree? (textObject (texts a)) = some a
  object : ∀ members a, form.ofTree? (.object members) = some a ↔
    ∀ m ∈ texts a, valuesOf m.1 members = [.string m.2]
  array : ∀ items a, form.ofTree? (.array items) = some a ↔
    items = (texts a).map fun m => .string m.2

/-- A text is decoded and what it holds is written again. -/
def reencode {α : Type} (decode : String → Except Error α) (json : α → Value) (text : String) :
    Except Error String :=
  (decode text).map fun a => (json a).compact

/-- What is decoded as a record of strings. -/
structure Carries {α : Type} (decode : String → Except Error α) (json : α → Value)
    (texts : α → List (String × String)) (names : List String) : Prop where
  read_back : ∀ a, decode (json a).compact = .ok a
  /-- Writing again settles: it changes neither what is decoded nor, once done, the text. -/
  reencoded : ∀ text again, reencode decode json text = .ok again →
    decode again = decode text ∧ reencode decode json again = .ok again
  /-- Each name occurs once, with its string; members with other names do not count. -/
  object : ∀ (members : List (String × Literal)) a,
    decode (Literal.object members).compact = .ok a ↔
      ∀ m ∈ texts a, literalsOf m.1 members = [.string m.2]
  object_accepted : ∀ members : List (String × Literal),
    (∃ a, decode (Literal.object members).compact = .ok a) ↔
      ∀ name ∈ names, ∃ s, literalsOf name members = [.string s]
  /-- The same of an object with blanks and escapes, and with any numbers in it. -/
  object_spelled : ∀ text members, SpellsWhole text (.object members) → ∀ a,
    decode text = .ok a ↔ ∀ m ∈ texts a, valuesOf m.1 members = [.string m.2]
  array : ∀ text s, skipBlanks text.toList = '[' :: s → ∀ a, decode text = .ok a ↔
    SpellsWhole text (.array ((texts a).map fun m => .string m.2))
  array_accepted : ∀ text s, skipBlanks text.toList = '[' :: s → ((∃ a, decode text = .ok a) ↔
    ∃ strings : List String, strings.length = names.length ∧
      SpellsWhole text (.array (strings.map .string)))

section OfTexts

variable {σ α : Type} {form : RecordForm σ α} {texts : α → List (String × String)}
  {names : List String}

/-- Strings can be chosen name by name. -/
theorem exists_pairs {P : String → String → Prop} (h : ∀ name ∈ names, ∃ s, P name s) :
    ∃ pairs : List (String × String), pairs.map (·.1) = names ∧ ∀ m ∈ pairs, P m.1 m.2 := by
  induction names with
  | nil => exact ⟨[], rfl, by simp⟩
  | cons name names ih =>
    obtain ⟨⟨s, hs⟩, hnames⟩ := List.forall_mem_cons.mp h
    obtain ⟨pairs, hfst, hpairs⟩ := ih hnames
    exact ⟨(name, s) :: pairs, by rw [List.map_cons, hfst],
      List.forall_mem_cons.mpr ⟨hs, hpairs⟩⟩

theorem map_value_eq_string {literals : List Literal} {s : String} :
    literals.map value = [.string s] ↔ literals = [.string s] := by
  constructor
  · intro h
    obtain ⟨l, rfl, hl⟩ := List.map_eq_singleton_iff.mp h
    rw [value_eq_string.mp hl]
  · rintro rfl
    rfl

namespace OfTexts

variable (h : OfTexts form texts names)

include h

theorem agrees : form.shape.Agrees :=
  (RecordForm.agreesOn_of_requiresText h.requiresText literal_spelling).agrees

theorem decode_written (a : α) : decode form.read (textObject (texts a)).compact = .ok a :=
  (h.agrees.decode_compact (fits_textObject (texts a)).integral).mpr (h.written a)

theorem decode_object (members : List (String × Literal)) (a : α) :
    decode form.read (Literal.object members).compact = .ok a ↔
      ∀ m ∈ texts a, literalsOf m.1 members = [.string m.2] := by
  refine ((h.agrees.decode_literal (.object members)).trans (h.object _ a)).trans ?_
  simp only [valuesOf_membersValue, map_value_eq_string]

theorem decode_spelled {text : String} {members : List (String × Value)}
    (hspells : SpellsWhole text (.object members)) (a : α) :
    decode form.read text = .ok a ↔ ∀ m ∈ texts a, valuesOf m.1 members = [.string m.2] := by
  obtain ⟨rest, hspells, hend⟩ := hspells
  have hagrees := RecordForm.agreesOn_of_requiresText h.requiresText spelled_spelling ⟨_, hspells⟩
  exact (hagrees.decode_eq_ok_iff hend).trans (h.object members a)

theorem decode_array {text : String} {s : List Char} (hopen : skipBlanks text.toList = '[' :: s)
    (a : α) : decode form.read text = .ok a ↔
      SpellsWhole text (.array ((texts a).map fun m => .string m.2)) := by
  rw [RecordForm.decode_bracket_iff h.requiresText h.fields_ne_nil hopen]
  simp only [h.array, exists_eq_right]

theorem carries : Carries (decode form.read) (fun a => textObject (texts a)) texts names where
  read_back := h.decode_written
  reencoded text again hagain := by
    cases hdecode : decode form.read text with
    | error e => simp [reencode, hdecode, Except.map] at hagain
    | ok a =>
      obtain rfl : (textObject (texts a)).compact = again := by
        simpa [reencode, hdecode, Except.map] using hagain
      simp [reencode, h.decode_written a, Except.map]
  object := h.decode_object
  object_accepted members := by
    constructor
    · rintro ⟨a, ha⟩ name hname
      rw [← h.map_fst a] at hname
      obtain ⟨m, hm, rfl⟩ := List.mem_map.mp hname
      exact ⟨m.2, (h.decode_object members a).mp ha m hm⟩
    · intro hnames
      obtain ⟨pairs, hfst, hpairs⟩ := exists_pairs hnames
      obtain ⟨a, rfl⟩ := h.exists_eq pairs hfst
      exact ⟨a, (h.decode_object members a).mpr hpairs⟩
  object_spelled _ _ hspells := h.decode_spelled hspells
  array text s hopen := h.decode_array hopen
  array_accepted text s hopen := by
    constructor
    · rintro ⟨a, ha⟩
      refine ⟨(texts a).map (·.2), ?_, ?_⟩
      · rw [← h.map_fst a, List.length_map, List.length_map]
      · rw [List.map_map]
        exact (h.decode_array hopen a).mp ha
    · rintro ⟨strings, hlength, hspells⟩
      have hnames : (names.zip strings).map (·.1) = names :=
        List.map_fst_zip (Nat.le_of_eq hlength.symm)
      obtain ⟨a, ha⟩ := h.exists_eq _ hnames
      refine ⟨a, (h.decode_array hopen a).mpr ?_⟩
      have hstrings : (names.zip strings).map (·.2) = strings :=
        List.map_snd_zip (Nat.le_of_eq hlength)
      rw [← hstrings, List.map_map] at hspells
      rwa [ha]

end OfTexts

end OfTexts

namespace SignupForm

/-- The fields of the form as they are named in its text, in order. -/
def texts (f : SignupForm) : List (String × String) :=
  [("username", f.username), ("email", f.email), ("password", f.password),
    ("confirmPassword", f.confirmation)]

theorem form_lawful : form.Lawful := by
  apply RecordForm.lawful_of_apart
  · simp only [form, List.forall_mem_cons, List.not_mem_nil, false_implies, implies_true,
      and_true]
    refine ⟨?_, ?_, ?_, ?_⟩ <;> exact Field.isSet_of fun _ _ => rfl
  · simp only [form, List.pairwise_cons, List.forall_mem_cons, List.not_mem_nil,
      false_implies, implies_true, and_true, List.Pairwise.nil]
    refine ⟨⟨?_, ?_, ?_⟩, ⟨?_, ?_⟩, ?_⟩ <;>
      exact Field.Apart.of (by decide) (fun _ _ => rfl) (fun _ _ => rfl) fun _ _ _ => rfl

theorem ofMembers?_eq_some {members : List (String × Value)} {d : Draft} :
    form.ofMembers? form.empty members = some d ↔
      Gathered .text (valuesOf "username" members) d.username ∧
      Gathered .text (valuesOf "email" members) d.email ∧
      Gathered .text (valuesOf "password" members) d.password ∧
      Gathered .text (valuesOf "confirmPassword" members) d.confirmation := by
  -- The fields are filled one after the other; those behind are still free.
  rw [form_lawful.ofMembers?_eq_fillAll?]
  constructor
  · intro h
    obtain ⟨username, husername, h⟩ :=
      (fillAll?_of (Draft.mk · none none none) rfl fun _ => rfl).mp h
    obtain ⟨email, hemail, h⟩ := (fillAll?_of (Draft.mk username · none none) rfl fun _ => rfl).mp h
    obtain ⟨password, hpassword, h⟩ :=
      (fillAll?_of (Draft.mk username email · none) rfl fun _ => rfl).mp h
    obtain ⟨confirmation, hconfirmation, h⟩ :=
      (fillAll?_of (Draft.mk username email password ·) rfl fun _ => rfl).mp h
    obtain rfl := Option.some.inj h
    exact ⟨husername, hemail, hpassword, hconfirmation⟩
  · rintro ⟨husername, hemail, hpassword, hconfirmation⟩
    refine (fillAll?_of (Draft.mk · none none none) rfl fun _ => rfl).mpr ⟨_, husername, ?_⟩
    refine (fillAll?_of (Draft.mk _ · none none) rfl fun _ => rfl).mpr ⟨_, hemail, ?_⟩
    refine (fillAll?_of (Draft.mk _ _ · none) rfl fun _ => rfl).mpr ⟨_, hpassword, ?_⟩
    exact (fillAll?_of (Draft.mk _ _ _ ·) rfl fun _ => rfl).mpr ⟨_, hconfirmation, rfl⟩

theorem build?_eq_some {d : Draft} {f : SignupForm} :
    form.build? d = some f ↔
      d = ⟨some f.username, some f.email, some f.password, some f.confirmation⟩ := by
  obtain ⟨username, email, password, confirmation⟩ := f
  obtain ⟨_ | username, _ | email, _ | password, _ | confirmation⟩ := d <;>
    simp [RecordForm.build?, form, needField, Except.toOption, bind, Except.bind, pure,
      Except.pure]

theorem ofItems?_eq_some {items : List Value} {d : Draft} :
    RecordForm.ofItems? form.fields form.empty items = some d ↔
      ∃ username email password confirmation,
        items = [.string username, .string email, .string password, .string confirmation] ∧
        d = ⟨some username, some email, some password, some confirmation⟩ := by
  simp only [form, RecordForm.ofItems?_text, RecordForm.ofItems?_nil]
  constructor
  · rintro ⟨username, _, rfl, email, _, rfl, password, _, rfl, confirmation, _, rfl, rfl, rfl⟩
    exact ⟨username, email, password, confirmation, rfl, rfl⟩
  · rintro ⟨username, email, password, confirmation, rfl, rfl⟩
    exact ⟨username, _, rfl, email, _, rfl, password, _, rfl, confirmation, _, rfl, rfl, rfl⟩

theorem ofTexts :
    OfTexts form texts ["username", "email", "password", "confirmPassword"] where
  requiresText := by
    simp only [form, List.forall_mem_cons, List.not_mem_nil, false_implies, implies_true, and_true]
    exact ⟨.of .., .of .., .of .., .of ..⟩
  fields_ne_nil := List.cons_ne_nil _ _
  map_fst _ := rfl
  exists_eq pairs h := by
    simp only [List.map_eq_cons_iff, List.map_eq_nil_iff] at h
    obtain ⟨⟨_, username⟩, _, rfl, rfl, ⟨_, email⟩, _, rfl, rfl, ⟨_, password⟩, _, rfl, rfl,
      ⟨_, confirmation⟩, _, rfl, rfl, rfl⟩ := h
    exact ⟨⟨username, email, password, confirmation⟩, rfl⟩
  written _ := rfl
  object members f := by
    simp only [RecordForm.ofTree?, RecordForm.ofObject?, Option.bind_eq_some_iff,
      ofMembers?_eq_some, build?_eq_some, exists_eq_right, gathered_text_eq_some]
    simp [texts]
  array items f := by
    simp only [RecordForm.ofTree?, Option.bind_eq_some_iff, build?_eq_some, exists_eq_right,
      ofItems?_eq_some]
    simp [texts]

end SignupForm

namespace LoginForm

/-- The fields of the form as they are named in its text, in order. -/
def texts (f : LoginForm) : List (String × String) := [("email", f.email), ("password", f.password)]

theorem form_lawful : form.Lawful := by
  apply RecordForm.lawful_of_apart
  · simp only [form, List.forall_mem_cons, List.not_mem_nil, false_implies, implies_true,
      and_true]
    exact ⟨Field.isSet_of fun _ _ => rfl, Field.isSet_of fun _ _ => rfl⟩
  · apply List.pairwise_pair.mpr
    exact Field.Apart.of (by decide) (fun _ _ => rfl) (fun _ _ => rfl) fun _ _ _ => rfl

theorem ofMembers?_eq_some {members : List (String × Value)} {d : Draft} :
    form.ofMembers? form.empty members = some d ↔
      Gathered .text (valuesOf "email" members) d.email ∧
      Gathered .text (valuesOf "password" members) d.password := by
  rw [form_lawful.ofMembers?_eq_fillAll?]
  constructor
  · intro h
    obtain ⟨email, hemail, h⟩ := (fillAll?_of (Draft.mk · none) rfl fun _ => rfl).mp h
    obtain ⟨password, hpassword, h⟩ := (fillAll?_of (Draft.mk email ·) rfl fun _ => rfl).mp h
    obtain rfl := Option.some.inj h
    exact ⟨hemail, hpassword⟩
  · rintro ⟨hemail, hpassword⟩
    refine (fillAll?_of (Draft.mk · none) rfl fun _ => rfl).mpr ⟨_, hemail, ?_⟩
    exact (fillAll?_of (Draft.mk _ ·) rfl fun _ => rfl).mpr ⟨_, hpassword, rfl⟩

theorem ofItems?_eq_some {items : List Value} {d : Draft} :
    RecordForm.ofItems? form.fields form.empty items = some d ↔
      ∃ email password, items = [.string email, .string password] ∧
        d = ⟨some email, some password⟩ := by
  simp only [form, RecordForm.ofItems?_text, RecordForm.ofItems?_nil]
  constructor
  · rintro ⟨email, _, rfl, password, _, rfl, rfl, rfl⟩
    exact ⟨email, password, rfl, rfl⟩
  · rintro ⟨email, password, rfl, rfl⟩
    exact ⟨email, _, rfl, password, _, rfl, rfl, rfl⟩

theorem build?_eq_some {d : Draft} {f : LoginForm} :
    form.build? d = some f ↔ d = ⟨some f.email, some f.password⟩ := by
  obtain ⟨email, password⟩ := f
  obtain ⟨_ | email, _ | password⟩ := d <;>
    simp [RecordForm.build?, form, needField, Except.toOption, bind, Except.bind, pure,
      Except.pure]

theorem ofTexts : OfTexts form texts ["email", "password"] where
  requiresText := by
    simp only [form, List.forall_mem_cons, List.not_mem_nil, false_implies, implies_true, and_true]
    exact ⟨.of .., .of ..⟩
  fields_ne_nil := List.cons_ne_nil _ _
  map_fst _ := rfl
  exists_eq pairs h := by
    simp only [List.map_eq_cons_iff, List.map_eq_nil_iff] at h
    obtain ⟨⟨_, email⟩, _, rfl, rfl, ⟨_, password⟩, _, rfl, rfl, rfl⟩ := h
    exact ⟨⟨email, password⟩, rfl⟩
  written _ := rfl
  object members f := by
    simp only [RecordForm.ofTree?, RecordForm.ofObject?, Option.bind_eq_some_iff,
      ofMembers?_eq_some, build?_eq_some, exists_eq_right, gathered_text_eq_some]
    simp [texts]
  array items f := by
    simp only [RecordForm.ofTree?, Option.bind_eq_some_iff, build?_eq_some, exists_eq_right,
      ofItems?_eq_some]
    simp [texts]

end LoginForm

/-- Both forms are read back from what they are written as, and from any other text with
the same strings under their names or in their order. -/
theorem forms_carried :
    Carries SignupForm.decode SignupForm.json SignupForm.texts
      ["username", "email", "password", "confirmPassword"] ∧
    Carries LoginForm.decode LoginForm.json LoginForm.texts ["email", "password"] :=
  ⟨SignupForm.ofTexts.carries, LoginForm.ofTexts.carries⟩

/-- An array with blanks and escapes, and an object with a member that is no field. -/
theorem forms_carried_spaced :
    let bracketed := " [ \"a\\u0040b\" ,\"\\n\"] "
    let members := [("password", Literal.string "\n"), ("Email", .null), ("email", .string "a@b")]
    SpellsWhole bracketed (.array [.string "a@b", .string "\n"]) ∧
    LoginForm.decode (Literal.object members).compact = .ok ⟨"a@b", "\n"⟩ ∧
    reencode LoginForm.decode LoginForm.json bracketed =
      .ok "\x7b\"email\":\"a@b\",\"password\":\"\\n\"\x7d" ∧
    LoginForm.decode "\x7b\"email\":\"a@b\",\"password\":\"\\n\"\x7d" =
      LoginForm.decode bracketed := by
  intro bracketed members
  obtain ⟨_, hlogin⟩ := forms_carried
  have hopen : skipBlanks bracketed.toList = '[' :: " \"a\\u0040b\" ,\"\\n\"] ".toList := by
    decide +kernel
  have hdecode : LoginForm.decode bracketed = .ok ⟨"a@b", "\n"⟩ :=
    eq_ok_of_toOption (by decide +kernel)
  have hagain : reencode LoginForm.decode LoginForm.json bracketed =
      .ok "\x7b\"email\":\"a@b\",\"password\":\"\\n\"\x7d" :=
    eq_ok_of_toOption (by decide +kernel)
  refine ⟨(hlogin.array bracketed _ hopen _).mp hdecode, (hlogin.object members _).mpr ?_, hagain,
    (hlogin.reencoded bracketed _ hagain).1⟩
  simp [LoginForm.texts, members, literalsOf]

end AccountPortal.Form
