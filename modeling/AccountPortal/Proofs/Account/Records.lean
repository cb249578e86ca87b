import AccountPortal.Proofs.Account.Envelope
import AccountPortal.Proofs.Backend.Echo

/-!
Objects that answer a request for a record. The members of such an object hold a
record if each of its required fields is named once, each other one at most once,
and their literals have the types of the fields. Then that record is decoded, and
in no other case is any. An identifier is taken as it is spelled, between the
bounds of 64 bits; only a zero with a sign is read as no integer. Neither the
order of the members counts nor those that name no field.
-/
namespace AccountPortal

open Json Json.Literal Backend

open Json.Field (Gathered fillAll?_of)

variable {members : List (String × Value)} {literals : List (String × Literal)}

/-- Members that hold a user. -/
structure User.Holds (members : List (String × Literal)) (u : User) : Prop where
  id : literalsOf "id" members = [.ofInt u.id]
  range : -0x8000000000000000 ≤ u.id ∧ u.id < 0x8000000000000000
  username : literalsOf "username" members = [.string u.username]
  email : literalsOf "email" members = [.string u.email]
  firstName : Optionally (· = .string ·) (literalsOf "first_name" members) u.firstName
  lastName : Optionally (· = .string ·) (literalsOf "last_name" members) u.lastName

theorem User.form_lawful : User.form.Lawful := by
  apply RecordForm.lawful_of_apart
  · simp only [User.form, List.forall_mem_cons, List.not_mem_nil, false_implies, implies_true,
      and_true]
    refine ⟨?_, ?_, ?_, ?_, ?_⟩ <;> exact Field.isSet_of fun _ _ => rfl
  · simp only [User.form, List.pairwise_cons, List.forall_mem_cons, List.not_mem_nil,
      false_implies, implies_true, and_true, List.Pairwise.nil]
    refine ⟨⟨?_, ?_, ?_, ?_⟩, ⟨?_, ?_, ?_⟩, ⟨?_, ?_⟩, ?_⟩ <;>
      exact Field.Apart.of (by decide) (fun _ _ => rfl) (fun _ _ => rfl) fun _ _ _ => rfl

theorem User.ofMembers?_eq_some {d : UserDraft} :
    User.form.ofMembers? User.form.empty members = some d ↔
      Gathered .int64 (valuesOf "id" members) d.id ∧
      Gathered .text (valuesOf "username" members) d.username ∧
      Gathered .text (valuesOf "email" members) d.email ∧
      Gathered (.optional .text) (valuesOf "first_name" members) d.firstName ∧
      Gathered (.optional .text) (valuesOf "last_name" members) d.lastName := by
  -- The fields are filled one after the other; those behind are still free.
  rw [User.form_lawful.ofMembers?_eq_fillAll?]
  constructor
  · intro h
    obtain ⟨id, hid, h⟩ := (fillAll?_of (UserDraft.mk · none none none none) rfl fun _ => rfl).mp h
    obtain ⟨username, husername, h⟩ :=
      (fillAll?_of (UserDraft.mk id · none none none) rfl fun _ => rfl).mp h
    obtain ⟨email, hemail, h⟩ :=
      (fillAll?_of (UserDraft.mk id username · none none) rfl fun _ => rfl).mp h
    obtain ⟨first, hfirst, h⟩ :=
      (fillAll?_of (UserDraft.mk id username email · none) rfl fun _ => rfl).mp h
    obtain ⟨last, hlast, h⟩ :=
      (fillAll?_of (UserDraft.mk id username email first ·) rfl fun _ => rfl).mp h
    obtain rfl := Option.some.inj h
    exact ⟨hid, husername, hemail, hfirst, hlast⟩
  · rintro ⟨hid, husername, hemail, hfirst, hlast⟩
    refine (fillAll?_of (UserDraft.mk · none none none none) rfl fun _ => rfl).mpr ⟨_, hid, ?_⟩
    refine (fillAll?_of (UserDraft.mk _ · none none none) rfl fun _ => rfl).mpr ⟨_, husername, ?_⟩
    refine (fillAll?_of (UserDraft.mk _ _ · none none) rfl fun _ => rfl).mpr ⟨_, hemail, ?_⟩
    refine (fillAll?_of (UserDraft.mk _ _ _ · none) rfl fun _ => rfl).mpr ⟨_, hfirst, ?_⟩
    exact (fillAll?_of (UserDraft.mk _ _ _ _ ·) rfl fun _ => rfl).mpr ⟨_, hlast, rfl⟩

theorem User.build?_eq_some {d : UserDraft} {u : User} :
    User.form.build? d = some u ↔ d.id = some u.id ∧ d.username = some u.username ∧
      d.email = some u.email ∧ d.firstName.join = u.firstName ∧ d.lastName.join = u.lastName := by
  obtain ⟨i, name, address, given, family⟩ := u
  obtain ⟨_ | id, _ | username, _ | email, first, last⟩ := d <;>
    simp [RecordForm.build?, User.form, needField, Except.toOption, bind, Except.bind, pure,
      Except.pure]

theorem isInt64_iff {i : Int} :
    isInt64 i = true ↔ -0x8000000000000000 ≤ i ∧ i < 0x8000000000000000 := by
  simp [isInt64]

theorem User.ofObject?_eq_some {u : User} :
    User.form.ofObject? (.object (membersValue literals)) = some u ↔ Holds literals u := by
  simp only [RecordForm.ofObject?, Option.bind_eq_some_iff, ofMembers?_eq_some, build?_eq_some,
    valuesOf_membersValue]
  constructor
  · rintro ⟨d, ⟨hid, husername, hemail, hfirst, hlast⟩, heqs⟩
    obtain ⟨hd, hdname, hdemail, hdfirst, hdlast⟩ := heqs
    rw [hd, gathered_int64] at hid
    rw [hdname, gathered_text] at husername
    rw [hdemail, gathered_text] at hemail
    have hfirst := (gathered_optional rfl).mp ⟨_, hfirst, hdfirst⟩
    have hlast := (gathered_optional rfl).mp ⟨_, hlast, hdlast⟩
    simp only [ofTree?_text] at hfirst hlast
    exact ⟨hid.1, isInt64_iff.mp hid.2, husername, hemail, hfirst, hlast⟩
  · rintro ⟨hid, hrange, husername, hemail, hfirst, hlast⟩
    simp only [← ofTree?_text] at hfirst hlast
    obtain ⟨first, hfirst, heqfirst⟩ := (gathered_optional rfl).mpr hfirst
    obtain ⟨last, hlast, heqlast⟩ := (gathered_optional rfl).mpr hlast
    refine ⟨⟨some u.id, some u.username, some u.email, first, last⟩, ?_, ?_⟩
    · exact ⟨gathered_int64.mpr ⟨hid, isInt64_iff.mpr hrange⟩, gathered_text.mpr husername,
        gathered_text.mpr hemail, hfirst, hlast⟩
    · exact ⟨rfl, rfl, rfl, heqfirst, heqlast⟩

/-- Members that hold a profile. -/
structure Profile.Holds (members : List (String × Literal)) (p : Profile) : Prop where
  spotifyId : Optionally (· = .string ·) (literalsOf "spotify_user_id" members) p.spotifyId
  voiceCommands : Switch (literalsOf "voice_commands_enabled" members) p.voiceCommands
  suggestions : Switch (literalsOf "ai_suggestions_enabled" members) p.suggestions

theorem Profile.form_lawful : Profile.form.Lawful := by
  apply RecordForm.lawful_of_apart
  · simp only [Profile.form, List.forall_mem_cons, List.not_mem_nil, false_implies, implies_true,
      and_true]
    refine ⟨?_, ?_, ?_⟩ <;> exact Field.isSet_of fun _ _ => rfl
  · simp only [Profile.form, List.pairwise_cons, List.forall_mem_cons, List.not_mem_nil,
      false_implies, implies_true, and_true, List.Pairwise.nil]
    refine ⟨⟨?_, ?_⟩, ?_⟩ <;>
      exact Field.Apart.of (by decide) (fun _ _ => rfl) (fun _ _ => rfl) fun _ _ _ => rfl

theorem Profile.ofMembers?_eq_some {d : ProfileDraft} :
    Profile.form.ofMembers? Profile.form.empty members = some d ↔
      Gathered (.optional .text) (valuesOf "spotify_user_id" members) d.spotifyId ∧
      Gathered .flag (valuesOf "voice_commands_enabled" members) d.voiceCommands ∧
      Gathered .flag (valuesOf "ai_suggestions_enabled" members) d.suggestions := by
  rw [Profile.form_lawful.ofMembers?_eq_fillAll?]
  constructor
  · intro h
    obtain ⟨spotify, hspotify, h⟩ :=
      (fillAll?_of (ProfileDraft.mk · none none) rfl fun _ => rfl).mp h
    obtain ⟨voice, hvoice, h⟩ :=
      (fillAll?_of (ProfileDraft.mk spotify · none) rfl fun _ => rfl).mp h
    obtain ⟨suggest, hsuggest, h⟩ :=
      (fillAll?_of (ProfileDraft.mk spotify voice ·) rfl fun _ => rfl).mp h
    obtain rfl := Option.some.inj h
    exact ⟨hspotify, hvoice, hsuggest⟩
  · rintro ⟨hspotify, hvoice, hsuggest⟩
    refine (fillAll?_of (ProfileDraft.mk · none none) rfl fun _ => rfl).mpr ⟨_, hspotify, ?_⟩
    refine (fillAll?_of (ProfileDraft.mk _ · none) rfl fun _ => rfl).mpr ⟨_, hvoice, ?_⟩
    exact (fillAll?_of (ProfileDraft.mk _ _ ·) rfl fun _ => rfl).mpr ⟨_, hsuggest, rfl⟩

theorem Profile.build?_eq_some {d : ProfileDraft} {p : Profile} :
    Profile.form.build? d = some p ↔ d.spotifyId.join = p.spotifyId ∧
      d.voiceCommands.getD false = p.voiceCommands ∧
      d.suggestions.getD false = p.suggestions := by
  obtain ⟨spotify, voice, suggest⟩ := p
  simp [RecordForm.build?, Profile.form, Except.toOption]

theorem Profile.ofObject?_eq_some {p : Profile} :
    Profile.form.ofObject? (.object (membersValue literals)) = some p ↔ Holds literals p := by
  simp only [RecordForm.ofObject?, Option.bind_eq_some_iff, ofMembers?_eq_some, build?_eq_some,
    valuesOf_membersValue]
  constructor
  · rintro ⟨d, ⟨hspotify, hvoice, hsuggest⟩, heqs⟩
    obtain ⟨hdspotify, hdvoice, hdsuggest⟩ := heqs
    have hspotify := (gathered_optional rfl).mp ⟨_, hspotify, hdspotify⟩
    simp only [ofTree?_text] at hspotify
    exact ⟨hspotify, gathered_flag.mp ⟨_, hvoice, hdvoice⟩,
      gathered_flag.mp ⟨_, hsuggest, hdsuggest⟩⟩
  · rintro ⟨hspotify, hvoice, hsuggest⟩
    simp only [← ofTree?_text] at hspotify
    obtain ⟨spotify, hspotify, heqspotify⟩ := (gathered_optional rfl).mpr hspotify
    obtain ⟨voice, hvoice, heqvoice⟩ := gathered_flag.mpr hvoice
    obtain ⟨suggest, hsuggest, heqsuggest⟩ := gathered_flag.mpr hsuggest
    exact ⟨⟨spotify, voice, suggest⟩, ⟨hspotify, hvoice, hsuggest⟩,
      ⟨heqspotify, heqvoice, heqsuggest⟩⟩

/-- Members that hold what the backend says to a successful sign-in. -/
structure Receipt.Holds (members : List (String × Literal)) (r : Receipt) : Prop where
  user : Optionally (fun l u => Json.decode User.shape.read l.compact = .ok u)
    (literalsOf "user" members) r.user
  message : Optionally (· = .string ·) (literalsOf "message" members) r.message

theorem Receipt.shape_agrees : Receipt.shape.Agrees := by
  apply Shape.AgreesOn.agrees
  apply RecordForm.shape_agreesOn _ literal_spelling
  simp only [Receipt.form, Field.of, List.forall_mem_cons, List.not_mem_nil, false_implies,
    implies_true, and_true]
  have huser := User.shape_agreesOn literal_spelling
  have htext := Shape.text_agreesOn literal_spelling
  exact ⟨(huser.optional literal_spelling).map _, (htext.optional literal_spelling).map _⟩

theorem Receipt.form_lawful : Receipt.form.Lawful := by
  apply RecordForm.lawful_of_apart
  · simp only [Receipt.form, List.forall_mem_cons, List.not_mem_nil, false_implies, implies_true,
      and_true]
    exact ⟨Field.isSet_of fun _ _ => rfl, Field.isSet_of fun _ _ => rfl⟩
  · apply List.pairwise_pair.mpr
    exact Field.Apart.of (by decide) (fun _ _ => rfl) (fun _ _ => rfl) fun _ _ _ => rfl

theorem Receipt.ofMembers?_eq_some {d : ReceiptDraft} :
    Receipt.form.ofMembers? Receipt.form.empty members = some d ↔
      Gathered (.optional User.shape) (valuesOf "user" members) d.user ∧
      Gathered (.optional .text) (valuesOf "message" members) d.message := by
  rw [Receipt.form_lawful.ofMembers?_eq_fillAll?]
  constructor
  · intro h
    obtain ⟨user, huser, h⟩ := (fillAll?_of (ReceiptDraft.mk · none) rfl fun _ => rfl).mp h
    obtain ⟨message, hmessage, h⟩ := (fillAll?_of (ReceiptDraft.mk user ·) rfl fun _ => rfl).mp h
    obtain rfl := Option.some.inj h
    exact ⟨huser, hmessage⟩
  · rintro ⟨huser, hmessage⟩
    refine (fillAll?_of (ReceiptDraft.mk · none) rfl fun _ => rfl).mpr ⟨_, huser, ?_⟩
    exact (fillAll?_of (ReceiptDraft.mk _ ·) rfl fun _ => rfl).mpr ⟨_, hmessage, rfl⟩

theorem Receipt.build?_eq_some {d : ReceiptDraft} {r : Receipt} :
    Receipt.form.build? d = some r ↔ d.user.join = r.user ∧ d.message.join = r.message := by
  obtain ⟨user, message⟩ := r
  simp [RecordForm.build?, Receipt.form, Except.toOption]

theorem Receipt.ofObject?_eq_some {r : Receipt} :
    Receipt.form.ofObject? (.object (membersValue literals)) = some r ↔ Holds literals r := by
  simp only [RecordForm.ofObject?, Option.bind_eq_some_iff, ofMembers?_eq_some, build?_eq_some,
    valuesOf_membersValue]
  constructor
  · rintro ⟨d, ⟨huser, hmessage⟩, hduser, hdmessage⟩
    have huser := (gathered_optional rfl).mp ⟨_, huser, hduser⟩
    have hmessage := (gathered_optional rfl).mp ⟨_, hmessage, hdmessage⟩
    simp only [ofTree?_text] at hmessage
    simp only [← User.shape_agrees.decode_literal] at huser
    exact ⟨huser, hmessage⟩
  · rintro ⟨huser, hmessage⟩
    simp only [← ofTree?_text] at hmessage
    simp only [User.shape_agrees.decode_literal] at huser
    obtain ⟨user, huser, hequser⟩ := (gathered_optional rfl).mpr huser
    obtain ⟨message, hmessage, heqmessage⟩ := (gathered_optional rfl).mpr hmessage
    exact ⟨⟨user, message⟩, ⟨huser, hmessage⟩, hequser, heqmessage⟩

/-- What an operation yields if the reply to every request has that status and body. -/
def answerTo (base : Base) (jar : Cookie.Jar) (status : Nat) (setCookies : Option String)
    (body : String) (operation : Operation) : Answer :=
  (operation.run base (answering ⟨.ok ⟨status, body⟩, setCookies⟩) () jar).1.answer

section AnswerTo

variable (base : Base) (jar : Cookie.Jar) (path : String) {status : Nat}
  (setCookies : Option String) (hstatus : Success status) (body : String)

include hstatus

theorem answerTo_get {α : Type} {expected : Expected} {read : List Char → Read α}
    {put : α → Decoded} (hread : expected.read = fun s => (read s).map (Prod.map put id)) :
    answerTo base jar status setCookies body (.get path expected) =
      .decoded (((Json.decode read body).map put).mapError fun e => .decode e.message) := by
  have hanswer : answerTo base jar status setCookies body (.get path expected) =
      .decoded (accepted (.ok ⟨status, body⟩) >>= decodeBody expected.read) := rfl
  rw [hanswer, accepted_bind_of_success hstatus, decodeBody, hread, decode_map]
  cases Json.decode read body <;> rfl

theorem answerTo_get_eq_ok_iff {α : Type} {expected : Expected} {read : List Char → Read α}
    {put : α → Decoded} (hread : expected.read = fun s => (read s).map (Prod.map put id))
    (hput : ∀ a b, put a = put b → a = b) {a : α} :
    answerTo base jar status setCookies body (.get path expected) = .decoded (.ok (put a)) ↔
      Json.decode read body = .ok a := by
  rw [answerTo_get base jar path setCookies hstatus body hread]
  cases Json.decode read body with
  | error e =>
    constructor
    · intro h
      exact nomatch Answer.decoded.inj h
    · intro h
      exact nomatch h
  | ok b =>
    constructor
    · intro h
      have hsame : put b = put a := Except.ok.inj (Answer.decoded.inj h)
      rw [hput b a hsame]
    · intro h
      rw [Except.ok.inj h]
      rfl

end AnswerTo

/-- What a request for a value is answered if the body of the reply is an object. -/
def answerFor (base : Base) (jar : Cookie.Jar) (path : String) (status : Nat)
    (setCookies : Option String) (expected : Expected) (members : List (String × Literal)) :
    Answer :=
  ((Operation.get path expected).run base
    (answering ⟨.ok ⟨status, (Literal.object members).compact⟩, setCookies⟩) () jar).1.answer

/-- Of an object the record is decoded that its members hold. -/
structure TellsHeld {σ α : Type} (form : RecordForm σ α)
    (Holds : List (String × Literal) → α → Prop) (put : α → Decoded)
    (answer : List (String × Literal) → Answer) : Prop where
  decoded : ∀ members a, answer members = .decoded (.ok (put a)) ↔ Holds members a
  refused : ∀ members, (¬ ∃ a, Holds members a) →
    ∃ message, answer members = .decoded (.error (.decode message))
  /-- Neither the order of the members counts nor those that name no field. -/
  known : ∀ members others, (form.known members).Perm (form.known others) →
    ∀ a, answer members = .decoded (.ok (put a)) ↔ answer others = .decoded (.ok (put a))

theorem known_membersValue {σ α : Type} (form : RecordForm σ α)
    (members : List (String × Literal)) :
    form.known (membersValue members) = (form.known members).map fun m => (m.1, m.2.value) := by
  rw [membersValue_eq_map, RecordForm.known, List.filter_map]
  rfl

section TellsHeld

variable {σ α : Type} {form : RecordForm σ α} {Holds : List (String × Literal) → α → Prop}
  {put : α → Decoded} {expected : Expected} (base : Base) (jar : Cookie.Jar) (path : String)
  {status : Nat} (setCookies : Option String)

theorem tellsHeld_of_form (hstatus : Success status)
    (hread : expected.read = fun s => (form.shape.read s).map (Prod.map put id))
    (hput : ∀ a b, put a = put b → a = b) (hagrees : form.shape.Agrees) (hlaw : form.Lawful)
    (hholds : ∀ members a, form.ofObject? (.object (membersValue members)) = some a ↔
      Holds members a) :
    TellsHeld form Holds put (answerFor base jar path status setCookies expected) := by
  have hdecode (members : List (String × Literal)) (a : α) :
      Json.decode form.shape.read (Literal.object members).compact = .ok a ↔ Holds members a :=
    (hagrees.decode_literal (.object members)).trans (hholds members a)
  have hdecoded (members : List (String × Literal)) (a : α) :
      answerFor base jar path status setCookies expected members = .decoded (.ok (put a)) ↔
        Holds members a :=
    (answerTo_get_eq_ok_iff base jar path setCookies hstatus _ hread hput).trans
      (hdecode members a)
  refine ⟨hdecoded, ?_, ?_⟩
  · intro members hnone
    have hanswer := answerTo_get base jar path setCookies hstatus
      (Literal.object members).compact hread
    rw [answerTo] at hanswer
    rw [answerFor, hanswer]
    cases h : Json.decode form.shape.read (Literal.object members).compact with
    | error e => exact ⟨e.message, rfl⟩
    | ok a => exact absurd ⟨a, (hdecode members a).mp h⟩ hnone
  · intro members others hperm a
    -- What a lawful form collects depends on the members that it knows, in any order.
    have hvalues : (form.known (membersValue members)).Perm
        (form.known (membersValue others)) := by
      rw [known_membersValue, known_membersValue]
      exact hperm.map _
    rw [hdecoded, hdecoded, ← hholds, ← hholds, RecordForm.ofObject?, RecordForm.ofObject?,
      hlaw.ofMembers?_perm hvalues]

end TellsHeld

/-- A request for a record that is answered with an object yields the record that its
members hold, and an error if they hold none. -/
theorem get_tells_held (base : Base) (jar : Cookie.Jar) (path : String) (status : Nat)
    (setCookies : Option String) (hstatus : Success status) :
    let answer := answerFor base jar path status setCookies
    TellsHeld User.form User.Holds .user (answer .user) ∧
    TellsHeld Profile.form Profile.Holds .profile (answer .profile) ∧
    TellsHeld Receipt.form Receipt.Holds .receipt (answer .receipt) := by
  refine ⟨?_, ?_, ?_⟩
  · exact tellsHeld_of_form base jar path setCookies hstatus rfl (fun _ _ => Decoded.user.inj)
      User.shape_agrees User.form_lawful fun _ _ => User.ofObject?_eq_some
  · exact tellsHeld_of_form base jar path setCookies hstatus rfl (fun _ _ => Decoded.profile.inj)
      Profile.shape_agrees Profile.form_lawful fun _ _ => Profile.ofObject?_eq_some
  · exact tellsHeld_of_form base jar path setCookies hstatus rfl (fun _ _ => Decoded.receipt.inj)
      Receipt.shape_agrees Receipt.form_lawful fun _ _ => Receipt.ofObject?_eq_some

/-- A user among members that name no field, with the least identifier. -/
def crowd : List (String × Literal) :=
  [("ID", .object [("id", .integer true 0),
      ("id", .array [.integer false 10000000000000000000000000000000000000000, .null])]),
    ("email", .string "a@b"), ("last_name", .null), ("id", .ofInt (-9223372036854775808)),
    ("ID", .bool true), ("username", .string "\n")]

theorem get_tells_held_crowd :
    Success 299 ∧
    answerFor .default none "/auth/me/" 299 none .user crowd =
      .decoded (.ok (.user ⟨-9223372036854775808, "\n", "a@b", none, none⟩)) ∧
    ∃ message, answerFor .default none "/auth/me/" 299 none .user
      (("id", .ofInt 9223372036854775808) :: crowd) = .decoded (.error (.decode message)) := by
  have hsuccess : Success 299 := by simp [Success]
  obtain ⟨huser, _, _⟩ := get_tells_held .default none "/auth/me/" 299 none hsuccess
  refine ⟨hsuccess, (huser.decoded _ _).mpr ?_, huser.refused _ ?_⟩
  · exact {
      id := rfl
      range := by decide
      username := rfl
      email := rfl
      firstName := .absent
      lastName := .null }
  · rintro ⟨u, hu⟩
    have htwice : (literalsOf "id" (("id", .ofInt 9223372036854775808) :: crowd)).length = 2 := rfl
    rw [hu.id] at htwice
    exact absurd htwice (by simp)

/-- Zero with a sign is an integer literal between the bounds, yet no identifier. -/
theorem signed_zero_is_no_id :
    let members := [("id", Literal.integer true 0), ("username", .string "a"),
      ("email", .string "b")]
    (Literal.integer true 0).compact = "-0" ∧
    (-0x8000000000000000 ≤ -(0 : Int) ∧ -(0 : Int) < 0x8000000000000000) ∧
    literalsOf "id" members = [.integer true 0] ∧
    literalsOf "username" members = [.string "a"] ∧
    literalsOf "email" members = [.string "b"] ∧
    literalsOf "first_name" members = [] ∧ literalsOf "last_name" members = [] ∧
    answerFor .default none "/auth/me/" 200 none .user members = .decoded (.error (.decode
      "invalid type: floating point `-0.0`, expected i64 at line 1 column 8")) := by
  refine ⟨rfl, by decide, rfl, rfl, rfl, rfl, rfl, ?_⟩
  rfl

end AccountPortal
