import AccountPortal.Account.Format
import AccountPortal.Proofs.Json.Fields

/-!
The two forms in which the signed-in account is understood. Members are an
envelope when exactly one of them is named `user` and holds a user, and at most
one is named `profile` and holds a profile or `null`. Only when they are no
envelope may they be the fields of a bare user. Members with other names have no
part in this.
-/
namespace AccountPortal

open Json

/-- The text of the value decodes as that record. -/
def Decodes {α : Type} (shape : Shape α) (v : Value) (a : α) : Prop :=
  Json.decode shape.read v.compact = .ok a

theorem User.shape_agreesOn {P : TextOf} (hP : Spelling P) : User.shape.AgreesOn P := by
  apply RecordForm.shape_agreesOn _ hP
  simp only [User.form, Field.of, List.forall_mem_cons, List.not_mem_nil, false_implies,
    implies_true, and_true]
  have htext := Shape.text_agreesOn hP
  exact ⟨(Shape.int64_agreesOn hP).map _, htext.map _, htext.map _,
    (htext.optional hP).map _, (htext.optional hP).map _⟩

theorem Profile.shape_agreesOn {P : TextOf} (hP : Spelling P) : Profile.shape.AgreesOn P := by
  apply RecordForm.shape_agreesOn _ hP
  simp only [Profile.form, Field.of, List.forall_mem_cons, List.not_mem_nil, false_implies,
    implies_true, and_true]
  have hflag := Shape.flag_agreesOn hP
  exact ⟨((Shape.text_agreesOn hP).optional hP).map _, hflag.map _, hflag.map _⟩

theorem User.shape_agrees : User.shape.Agrees :=
  (User.shape_agreesOn literal_spelling).agrees

theorem Profile.shape_agrees : Profile.shape.Agrees :=
  (Profile.shape_agreesOn literal_spelling).agrees

theorem User.decodes_iff {v : Value} (hv : v.Integral) {u : User} :
    Decodes User.shape v u ↔ User.shape.ofTree? v = some u :=
  User.shape_agrees.decode_compact hv

theorem Profile.decodes_iff {v : Value} (hv : v.Integral) {p : Profile} :
    Decodes Profile.shape v p ↔ Profile.shape.ofTree? v = some p :=
  Profile.shape_agrees.decode_compact hv

namespace CurrentUser

/-- Members that hold an account as an envelope. -/
structure Envelope (members : List (String × Value)) (c : CurrentUser) : Prop where
  user : ∃ v, valuesOf "user" members = [v] ∧ Decodes User.shape v c.user
  profile :
    (valuesOf "profile" members = [] ∧ c.profile = none) ∨
    (valuesOf "profile" members = [.null] ∧ c.profile = none) ∨
    ∃ v p, valuesOf "profile" members = [v] ∧ Decodes Profile.shape v p ∧ c.profile = some p

def userField : Json.Field EnvelopeDraft :=
  .of "user" true (·.user) (fun x d => { d with user := some x }) User.shape

def profileField : Json.Field EnvelopeDraft :=
  .of "profile" false (·.profile) (fun x d => { d with profile := some x })
    (.optional Profile.shape)

theorem envelope_lawful : envelope.Lawful := by
  apply RecordForm.lawful_of_apart
  · simp only [envelope, List.forall_mem_cons, List.not_mem_nil, false_implies, implies_true,
      and_true]
    exact ⟨Field.isSet_of fun _ _ => rfl, Field.isSet_of fun _ _ => rfl⟩
  · apply List.pairwise_pair.mpr
    exact Field.Apart.of (by decide) (fun _ _ => rfl) (fun _ _ => rfl) fun _ _ _ => rfl

/-- The user that the values named `user` hold. -/
def userOf? : List Value → Option User
  | [v] => User.shape.ofTree? v
  | _ => none

/-- The profile, if any, that the values named `profile` hold. -/
def profileOf? : List Value → Option (Option Profile)
  | [] => some none
  | [v] => Profile.shape.optional.ofTree? v
  | _ => none

theorem fill?_user (values : List Value) :
    userField.fill? envelope.empty values =
      if values = [] then some envelope.empty
      else (userOf? values).map fun user => ⟨some user, none⟩ := by
  match values with
  | [] => rfl
  | [v] =>
    have htake : userField.fill? envelope.empty [v] =
        (User.shape.ofTree? v).map fun user => ⟨some user, none⟩ := Option.map_map ..
    rw [htake, if_neg (by simp), userOf?]
  | _ :: _ :: _ => simp [Field.fill?, userOf?]

/-- Without a user there is no account, whatever becomes of the profile. -/
theorem fill?_profile (user : Option User) (values : List Value) :
    (profileField.fill? ⟨user, none⟩ values).bind envelope.build? =
      user.bind fun user => (profileOf? values).map fun profile => ⟨user, profile⟩ := by
  match values with
  | [] => cases user <;> rfl
  | [v] =>
    have htake : profileField.fill? ⟨user, none⟩ [v] =
        (Profile.shape.optional.ofTree? v).map fun profile => ⟨user, some profile⟩ :=
      Option.map_map ..
    rw [htake, profileOf?]
    cases Profile.shape.optional.ofTree? v <;> cases user <;> rfl
  | _ :: _ :: _ => cases user <;> rfl

theorem ofObject?_members (members : List (String × Value)) :
    envelope.ofObject? (.object members) =
      (userOf? (valuesOf "user" members)).bind fun user =>
        (profileOf? (valuesOf "profile" members)).map fun profile => ⟨user, profile⟩ := by
  have hfill : envelope.ofObject? (.object members) =
      (userField.fill? envelope.empty (valuesOf "user" members)).bind fun draft =>
        (profileField.fill? draft (valuesOf "profile" members)).bind envelope.build? := by
    have hfields : envelope.fields = [userField, profileField] := rfl
    rw [RecordForm.ofObject?, envelope_lawful.ofMembers?_eq_fillAll?, hfields, Field.fillAll?,
      Option.bind_assoc]
    congr
    funext draft
    have hdone : Field.fillAll? members ([] : List (Json.Field EnvelopeDraft)) = some := rfl
    rw [Field.fillAll?, hdone, Option.bind_fun_some]
    rfl
  rw [hfill, fill?_user]
  split
  · rename_i hnone
    rw [hnone]
    exact fill?_profile none _
  · cases userOf? (valuesOf "user" members) with
    | none => rfl
    | some user => exact fill?_profile (some user) _

section Integral

variable {members : List (String × Value)} (hint : ∀ m ∈ members, m.2.Integral)

include hint

theorem integral_of_valuesOf {name : String} {v : Value} (h : valuesOf name members = [v]) :
    v.Integral :=
  hint (name, v) (mem_of_mem_valuesOf (h ▸ List.mem_singleton_self v))

theorem userOf?_valuesOf {user : User} :
    userOf? (valuesOf "user" members) = some user ↔
      ∃ v, valuesOf "user" members = [v] ∧ Decodes User.shape v user := by
  constructor
  · intro h
    unfold userOf? at h
    split at h
    · rename_i v hv
      exact ⟨v, hv, (User.decodes_iff (integral_of_valuesOf hint hv)).mpr h⟩
    · contradiction
  · rintro ⟨v, hv, h⟩
    rw [hv]
    exact (User.decodes_iff (integral_of_valuesOf hint hv)).mp h

theorem profileOf?_valuesOf {profile : Option Profile} :
    profileOf? (valuesOf "profile" members) = some profile ↔
      (valuesOf "profile" members = [] ∧ profile = none) ∨
      (valuesOf "profile" members = [.null] ∧ profile = none) ∨
      ∃ v p, valuesOf "profile" members = [v] ∧ Decodes Profile.shape v p ∧ profile = some p := by
  match hvalues : valuesOf "profile" members with
  | [] => simp [profileOf?, eq_comm]
  | [v] =>
    have hdecodes (p : Profile) := Profile.decodes_iff (integral_of_valuesOf hint hvalues) (p := p)
    by_cases hnull : v = .null
    · subst hnull
      have hrefused : Profile.shape.ofTree? .null = none := rfl
      simp [profileOf?, Shape.optional, hdecodes, hrefused, eq_comm]
    · simp [profileOf?, Shape.ofTree?_optional hnull, hnull, hdecodes, Option.map_eq_some_iff,
        eq_comm (a := profile)]
  | _ :: _ :: _ => simp [profileOf?]

/-- What is collected from the members is the envelope that they are. -/
theorem ofObject?_eq_some {c : CurrentUser} :
    envelope.ofObject? (.object members) = some c ↔ Envelope members c := by
  rw [ofObject?_members, Option.bind_eq_some_iff]
  constructor
  · rintro ⟨user, huser, h⟩
    obtain ⟨profile, hprofile, rfl⟩ := Option.map_eq_some_iff.mp h
    exact ⟨(userOf?_valuesOf hint).mp huser, (profileOf?_valuesOf hint).mp hprofile⟩
  · rintro ⟨huser, hprofile⟩
    refine ⟨c.user, (userOf?_valuesOf hint).mpr huser, ?_⟩
    rw [(profileOf?_valuesOf hint).mpr hprofile, Option.map_some]

theorem ofObject?_eq_none :
    envelope.ofObject? (.object members) = none ↔ ¬ ∃ c, Envelope members c := by
  simp only [Option.eq_none_iff_forall_ne_some, Ne, ofObject?_eq_some hint, not_exists]

end Integral

abbrev userNames : List String := ["id", "username", "email", "first_name", "last_name"]

abbrev profileNames : List String :=
  ["spotify_user_id", "voice_commands_enabled", "ai_suggestions_enabled"]

/-- The first members with more put in where an envelope has no use for them:
beside the user and the profile, among the fields of the user, or among those of
the profile. -/
inductive Envelope.Extends : List (String × Value) → List (String × Value) → Prop where
  | nil : Extends [] []
  | keep (m : String × Value) {members more : List (String × Value)} :
      Extends members more → Extends (m :: members) (m :: more)
  | beside {key : String} (v : Value) {members more : List (String × Value)} :
      key ∉ ["user", "profile"] → Extends members more → Extends members ((key, v) :: more)
  | inUser {fields wider members more : List (String × Value)} :
      Grows (· ∉ userNames) fields wider → Extends members more →
      Extends (("user", .object fields) :: members) (("user", .object wider) :: more)
  | inProfile {fields wider members more : List (String × Value)} :
      Grows (· ∉ profileNames) fields wider → Extends members more →
      Extends (("profile", .object fields) :: members) (("profile", .object wider) :: more)

section Extends

variable {members more : List (String × Value)}

/-- Values of the two names are seen the same by whatever ignores what is added to them. -/
theorem Envelope.Extends.map_valuesOf {β : Type} {name : String} {f : Value → β}
    (h : Extends members more) (hname : name ∈ ["user", "profile"])
    (huser : name = "user" → ∀ fields wider, Grows (· ∉ userNames) fields wider →
      f (.object wider) = f (.object fields))
    (hprofile : name = "profile" → ∀ fields wider, Grows (· ∉ profileNames) fields wider →
      f (.object wider) = f (.object fields)) :
    (valuesOf name more).map f = (valuesOf name members).map f := by
  induction h with
  | nil => rfl
  | keep m _ ih =>
    rw [valuesOf, valuesOf]
    split
    · rw [List.map_cons, List.map_cons, ih]
    · exact ih
  | beside v hkey _ ih =>
    rw [valuesOf, if_neg, ih]
    rintro rfl
    exact hkey hname
  | inUser hwider _ ih =>
    rw [valuesOf, valuesOf]
    split
    · rename_i heq
      rw [List.map_cons, List.map_cons, ih, huser heq.symm _ _ hwider]
    · exact ih
  | inProfile hwider _ ih =>
    rw [valuesOf, valuesOf]
    split
    · rename_i heq
      rw [List.map_cons, List.map_cons, ih, hprofile heq.symm _ _ hwider]
    · exact ih

theorem userOf?_congr {vs ws : List Value}
    (h : ws.map User.shape.ofTree? = vs.map User.shape.ofTree?) : userOf? ws = userOf? vs := by
  match vs, ws, h with
  | [], [], _ => rfl
  | [v], [w], h => simpa [userOf?] using h
  | [_], _ :: _ :: _, h => simp at h
  | _ :: _ :: _, [_], h => simp at h
  | _ :: _ :: _, _ :: _ :: _, _ => rfl

theorem profileOf?_congr {vs ws : List Value}
    (h : ws.map Profile.shape.optional.ofTree? = vs.map Profile.shape.optional.ofTree?) :
    profileOf? ws = profileOf? vs := by
  match vs, ws, h with
  | [], [], _ => rfl
  | [v], [w], h => simpa [profileOf?] using h
  | [_], _ :: _ :: _, h => simp at h
  | _ :: _ :: _, [_], h => simp at h
  | _ :: _ :: _, _ :: _ :: _, _ => rfl

theorem ofObject?_extends (h : Envelope.Extends members more) :
    envelope.ofObject? (.object more) = envelope.ofObject? (.object members) := by
  have huser : (valuesOf "user" more).map User.shape.ofTree? =
      (valuesOf "user" members).map User.shape.ofTree? := by
    apply h.map_valuesOf (by simp)
    · exact fun _ _ _ hwider => User.form.ofTree?_grows hwider
    · exact fun heq => absurd heq (by simp)
  have hprofile : (valuesOf "profile" more).map Profile.shape.optional.ofTree? =
      (valuesOf "profile" members).map Profile.shape.optional.ofTree? := by
    apply h.map_valuesOf (by simp)
    · exact fun heq => absurd heq (by simp)
    · exact fun _ _ _ hwider => congrArg (Option.map some) (Profile.form.ofTree?_grows hwider)
  rw [ofObject?_members, ofObject?_members, userOf?_congr huser, profileOf?_congr hprofile]

/-- No profile comes of values that already were too many or the wrong one. -/
theorem profileOf?_sublist {vs ws : List Value} (h : vs.Sublist ws) (hnone : profileOf? vs = none) :
    profileOf? ws = none := by
  match ws, h with
  | [], h =>
    rw [List.sublist_nil.mp h] at hnone
    contradiction
  | [w], h =>
    match vs, h, hnone with
    | [], _, hnone => contradiction
    | [v], h, hnone =>
      obtain rfl : v = w := by simpa using h
      exact hnone
    | _ :: _ :: _, h, _ => simpa using h.length_le
  | _ :: _ :: _, _ => rfl

/-- Members that are no envelope do not become one without another user. -/
theorem ofObject?_grows {allowed : String → Prop} (h : Grows allowed members more)
    (huser : ¬ allowed "user") (hnone : envelope.ofObject? (.object members) = none) :
    envelope.ofObject? (.object more) = none := by
  rw [ofObject?_members] at hnone ⊢
  rw [h.valuesOf_eq huser]
  cases hu : userOf? (valuesOf "user" members) with
  | none => rfl
  | some user =>
    rw [hu, Option.bind_some, Option.map_eq_none_iff] at hnone
    rw [Option.bind_some, Option.map_eq_none_iff]
    exact profileOf?_sublist (h.valuesOf_sublist "profile") hnone

end Extends

end CurrentUser

end AccountPortal
