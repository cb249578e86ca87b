import AccountPortal.Backend.Call
import AccountPortal.Proofs.Account.Envelope

/-!
What the call for the signed-in account makes of the members of an object that
comes with a success. An envelope goes before a bare user, members that are
neither are a decode error, and what an account is written as is understood as
that account. More members leave an account as it is.
-/
namespace AccountPortal

open Json

/-- A text, or `null` for none. -/
def optionalText : Option String → Value
  | some s => .string s
  | none => .null

def User.members (u : User) : List (String × Value) :=
  [("id", .number (.integer u.id)), ("username", .string u.username), ("email", .string u.email),
    ("first_name", optionalText u.firstName), ("last_name", optionalText u.lastName)]

def User.json (u : User) : Value := .object u.members

def Profile.json (p : Profile) : Value :=
  .object [("spotify_user_id", optionalText p.spotifyId),
    ("voice_commands_enabled", .bool p.voiceCommands),
    ("ai_suggestions_enabled", .bool p.suggestions)]

theorem ofTree?_string (s : String) : Shape.text.ofTree? (.string s) = some s := rfl

theorem ofTree?_bool (b : Bool) : Shape.flag.ofTree? (.bool b) = some b := rfl

theorem ofTree?_optionalText (s : Option String) :
    Shape.text.optional.ofTree? (optionalText s) = some s := by
  cases s <;> rfl

theorem User.ofTree?_json (u : User) (hid : isInt64 u.id = true) :
    User.shape.ofTree? u.json = some u := by
  have hint : Shape.int64.ofTree? (.number (.integer u.id)) = some u.id := by
    simp [Shape.int64, hid]
  change (User.form.ofMembers? User.form.empty u.members).bind User.form.build? = some u
  simp only [User.members, RecordForm.ofMembers?, RecordForm.field?, User.form, Field.of, Shape.map,
    List.find?_cons, String.reduceBEq, hint, ofTree?_string, ofTree?_optionalText, Option.map_some,
    Option.isSome_none, Bool.false_eq_true, if_false]
  rfl

theorem Profile.ofTree?_json (p : Profile) : Profile.shape.ofTree? p.json = some p := by
  change (Profile.form.ofMembers? Profile.form.empty _).bind Profile.form.build? = some p
  simp only [RecordForm.ofMembers?, RecordForm.field?, Profile.form, Field.of, Shape.map,
    List.find?_cons, String.reduceBEq, ofTree?_bool, ofTree?_optionalText, Option.map_some,
    Option.isSome_none, Bool.false_eq_true, if_false]
  rfl

/-- The members of the envelope of an account. -/
def CurrentUser.members (c : CurrentUser) : List (String × Value) :=
  [("user", c.user.json), ("profile", (c.profile.map Profile.json).getD .null)]

theorem inWord_of_isInt64 {i : Int} (h : isInt64 i = true) : InWord i := by
  simp only [isInt64, Bool.and_eq_true, decide_eq_true_eq] at h
  simp only [InWord]
  omega

theorem numbers_optionalText (s : Option String) : (optionalText s).numbers = [] := by
  cases s <;> rfl

theorem depth_optionalText (s : Option String) : (optionalText s).depth = 0 := by
  cases s <;> rfl

theorem User.numbers_json (u : User) : u.json.numbers = [.integer u.id] := by
  simp [User.json, User.members, Value.numbers, Value.membersNumbers, numbers_optionalText]

theorem User.depth_json (u : User) : u.json.depth = 1 := by
  simp [User.json, User.members, Value.depth, Value.membersDepth, depth_optionalText]

theorem Profile.numbers_json (p : Profile) : p.json.numbers = [] := by
  simp [Profile.json, Value.numbers, Value.membersNumbers, numbers_optionalText]

theorem Profile.depth_json (p : Profile) : p.json.depth = 1 := by
  simp [Profile.json, Value.depth, Value.membersDepth, depth_optionalText]

namespace CurrentUser

theorem legible_members (c : CurrentUser) (hid : isInt64 c.user.id = true) :
    Legible c.members where
  fits := by
    intro n hn
    have hn' : n = .integer c.user.id := by
      cases hp : c.profile <;>
        simpa [members, Value.numbers, Value.membersNumbers, User.numbers_json,
          Profile.numbers_json, hp] using hn
    exact ⟨c.user.id, hn', inWord_of_isInt64 hid⟩
  depth := by
    cases hp : c.profile <;>
      simp [members, Value.depth, Value.membersDepth, User.depth_json, Profile.depth_json, hp,
        depthLimit]

theorem legible_user (u : User) (hid : isInt64 u.id = true) : Legible u.members where
  fits := by
    intro n hn
    change n ∈ u.json.numbers at hn
    rw [User.numbers_json, List.mem_singleton] at hn
    exact ⟨u.id, hn, inWord_of_isInt64 hid⟩
  depth := by
    change u.json.depth ≤ depthLimit
    rw [User.depth_json]
    decide

theorem decodes_user (u : User) (hid : isInt64 u.id = true) : Decodes User.shape u.json u :=
  (User.decodes_iff (legible_user u hid).fits.integral).mpr (User.ofTree?_json u hid)

theorem no_envelope_user (u : User) : ¬ ∃ c, Envelope u.members c := by
  rintro ⟨c, ⟨v, hv, _⟩, _⟩
  simp [User.members, valuesOf] at hv

theorem envelope_members (c : CurrentUser) (hid : isInt64 c.user.id = true) :
    Envelope c.members c where
  user := ⟨c.user.json, rfl, decodes_user c.user hid⟩
  profile := by
    cases hp : c.profile with
    | none => exact Or.inr (Or.inl ⟨by simp [members, valuesOf, hp], rfl⟩)
    | some p =>
      have hint : p.json.Integral := by simp [Value.Integral, Profile.numbers_json]
      refine Or.inr (Or.inr ⟨p.json, p, by simp [members, valuesOf, hp], ?_, rfl⟩)
      exact (Profile.decodes_iff hint).mpr (Profile.ofTree?_json p)

/-- The answer to the call when members come as the text of an object. -/
def answered (status : Nat) (jar : Cookie.Jar) (members : List (String × Value)) :
    Except Backend.Error CurrentUser :=
  (Backend.currentUser.conclude (.ok ⟨status, (Value.object members).compact⟩) jar).1

def noAccount : Backend.Error :=
  .decode "data did not match any variant of untagged enum MeResponse"

theorem decode_compact {v : Value} (hfits : v.Fits) (hdepth : v.depth ≤ depthLimit) :
    Json.decode CurrentUser.read v.compact =
      match ofTree? v with
      | some c => .ok c
      | none => .error ⟨.noVariant "MeResponse", none⟩ := by
  have hread := readTree_write hfits hdepth endsNumber_nil
  rw [List.append_nil] at hread
  cases hv : ofTree? v with
  | some c =>
    apply decode_ofList
    simp only [CurrentUser.read, hread, hv]
  | none => simp [Json.decode, Value.compact, CurrentUser.read, hread, hv, Fault.locate]

variable {status : Nat} (hlow : 200 ≤ status) (hhigh : status < 300) (jar : Cookie.Jar)
  {members : List (String × Value)} (h : Legible members)

include hlow hhigh h

theorem answered_eq :
    answered status jar members =
      match ofTree? (.object members) with
      | some c => .ok c
      | none => .error noAccount := by
  have hsuccess : Http.Response.isSuccess ⟨status, (Value.object members).compact⟩ = true := by
    simp [Http.Response.isSuccess, hlow, hhigh]
  have haccepted : Backend.accepted (.ok ⟨status, (Value.object members).compact⟩) =
      .ok ⟨status, (Value.object members).compact⟩ := by
    rw [Backend.accepted, if_pos hsuccess]
  have hanswered : answered status jar members =
      Backend.decodeBody CurrentUser.read ⟨status, (Value.object members).compact⟩ := by
    simp only [answered, Backend.currentUser, Backend.Call.fetch, Backend.Call.of, haccepted]
    rfl
  rw [hanswered, Backend.decodeBody, decode_compact h.fits h.depth]
  cases ofTree? (.object members) <;> rfl

theorem answered_envelope {c : CurrentUser} (hc : Envelope members c) :
    answered status jar members = .ok c := by
  have htree := (ofObject?_eq_some h.integral).mpr hc
  simp only [answered_eq hlow hhigh jar h, ofTree?, htree]

theorem answered_bare (hnone : ¬ ∃ c, Envelope members c) {user : User}
    (huser : Decodes User.shape (.object members) user) :
    answered status jar members = .ok ⟨user, none⟩ := by
  have htree := (User.decodes_iff h.fits.integral).mp huser
  simp only [answered_eq hlow hhigh jar h, ofTree?, (ofObject?_eq_none h.integral).mpr hnone,
    htree, Option.map_some]

theorem answered_neither (hnone : ¬ ∃ c, Envelope members c)
    (huser : ¬ ∃ user, Decodes User.shape (.object members) user) :
    answered status jar members = .error noAccount := by
  have htree : User.shape.ofTree? (.object members) = none := by
    rw [Option.eq_none_iff_forall_ne_some]
    exact fun user hu => huser ⟨user, (User.decodes_iff h.fits.integral).mpr hu⟩
  simp only [answered_eq hlow hhigh jar h, ofTree?, (ofObject?_eq_none h.integral).mpr hnone,
    htree, Option.map_none]

variable {more : List (String × Value)} (hmore : Legible more)

include hmore

theorem answered_extends (hext : Envelope.Extends members more) {c : CurrentUser}
    (hc : Envelope members c) : answered status jar more = answered status jar members := by
  have htree := (ofObject?_eq_some h.integral).mpr hc
  simp only [answered_eq hlow hhigh jar h, answered_eq hlow hhigh jar hmore, ofTree?,
    ofObject?_extends hext, htree]

theorem answered_grows (hgrows : Grows (· ∉ "user" :: userNames) members more)
    (hnone : ¬ ∃ c, Envelope members c) :
    answered status jar more = answered status jar members := by
  have hbare := (ofObject?_eq_none h.integral).mpr hnone
  have hbare' := ofObject?_grows hgrows (by simp) hbare
  have htree : User.shape.ofTree? (.object more) = User.shape.ofTree? (.object members) :=
    User.form.ofTree?_grows (hgrows.weaken fun _ hkey hname => hkey (List.mem_cons_of_mem _ hname))
  simp only [answered_eq hlow hhigh jar h, answered_eq hlow hhigh jar hmore, ofTree?, hbare, hbare',
    htree]

end CurrentUser

section Answered

open CurrentUser

/-- An envelope is taken for the account in it, other members only for a bare
user, and what is neither is no account. So an envelope may get more members at
any of its levels and a bare user more members beside its fields, and an account
is understood from either of its own texts. -/
theorem currentUser_of_members (status : Nat) (hlow : 200 ≤ status) (hhigh : status < 300)
    (jar : Cookie.Jar) (members : List (String × Value)) (h : Legible members) :
    (∀ c, Envelope members c → answered status jar members = .ok c) ∧
    ((¬ ∃ c, Envelope members c) →
      (∀ user, Decodes User.shape (.object members) user →
        answered status jar members = .ok ⟨user, none⟩) ∧
      ((¬ ∃ user, Decodes User.shape (.object members) user) →
        answered status jar members =
          .error (.decode "data did not match any variant of untagged enum MeResponse"))) ∧
    (∀ more, Legible more → Envelope.Extends members more → (∃ c, Envelope members c) →
      answered status jar more = answered status jar members) ∧
    (∀ more, Legible more →
      Grows (· ∉ ["user", "id", "username", "email", "first_name", "last_name"]) members more →
      (¬ ∃ c, Envelope members c) → answered status jar more = answered status jar members) ∧
    (∀ c : CurrentUser, isInt64 c.user.id = true →
      answered status jar c.members = .ok c ∧
      answered status jar c.user.members = .ok ⟨c.user, none⟩) := by
  refine ⟨fun c hc => answered_envelope hlow hhigh jar h hc, fun hnone => ⟨?_, ?_⟩, ?_, ?_, ?_⟩
  · exact fun user huser => answered_bare hlow hhigh jar h hnone huser
  · exact answered_neither hlow hhigh jar h hnone
  · rintro more hmore hext ⟨c, hc⟩
    exact answered_extends hlow hhigh jar h hmore hext hc
  · exact fun more hmore hgrows hnone => answered_grows hlow hhigh jar h hmore hgrows hnone
  · intro c hid
    exact ⟨answered_envelope hlow hhigh jar (legible_members c hid) (envelope_members c hid),
      answered_bare hlow hhigh jar (legible_user c.user hid) (no_envelope_user c.user)
        (decodes_user c.user hid)⟩

/-- The envelope of an account with a theme before it and groups among its fields. -/
theorem currentUser_of_wider_envelope :
    let ada : CurrentUser := ⟨⟨7, "ada", "ada@example.org", none, none⟩, none⟩
    let wider : List (String × Value) :=
      [("theme", .string "dark"), ("user", .object (("groups", .array []) :: ada.user.members)),
        ("profile", .null)]
    Legible ada.members ∧ Legible wider ∧ Envelope.Extends ada.members wider ∧
      answered 200 none wider = .ok ada := by
  intro ada wider
  have hada : Legible ada.members := legible_members ada (by decide)
  have hwider : Legible wider := by
    refine ⟨?_, by decide⟩
    intro n hn
    exact ⟨7, List.mem_singleton.mp hn, inWord_of_isInt64 (by decide)⟩
  have hext : Envelope.Extends ada.members wider := by
    apply Envelope.Extends.beside _ (by simp)
    apply Envelope.Extends.inUser
    · exact .add _ (by simp) (.keep _ (.keep _ (.keep _ (.keep _ (.keep _ .nil)))))
    · exact .keep _ .nil
  obtain ⟨_, _, hwiden, _, hown⟩ :=
    currentUser_of_members 200 (by decide) (by decide) none ada.members hada
  refine ⟨hada, hwider, hext, ?_⟩
  rw [hwiden wider hwider hext ⟨ada, envelope_members ada (by decide)⟩]
  exact (hown ada (by decide)).1

end Answered

end AccountPortal
