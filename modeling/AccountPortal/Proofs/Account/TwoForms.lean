import AccountPortal.Proofs.Account.Records
import AccountPortal.Proofs.Json.Bodies
import Mathlib.Data.List.Forall2

/-!
The call for the signed-in account reads a whole body before it tries two forms; a
request for a user tells the record from the text as it goes and steps over the rest.
Where both are asked they agree, on any text: an account that was understood is a user
to the other, in the member that holds it or in the whole text, and a user is an
account unless a member claims to hold one.
-/
namespace AccountPortal

open Json Backend

namespace CurrentUser

variable {text : String} {v : Value} {c : CurrentUser} {user : User}

theorem decode_read_eq_ok_iff :
    Json.decode read text = .ok c ↔ ∃ v, SpellsWhole text v ∧ ofTree? v = some c := by
  rw [decode_eq_ok_iff]
  constructor
  · rintro ⟨rest, hread, hend⟩
    unfold read at hread
    split at hread
    · cases hread
    · rename_i v left htree
      split at hread
      · rename_i hv
        cases hread
        exact ⟨v, ⟨rest, readTree_eq_ok_iff.mp htree, hend⟩, hv⟩
      · cases hread
  · rintro ⟨v, ⟨rest, htext, hend⟩, hv⟩
    exact ⟨rest, by simp only [read, readTree_eq_ok_iff.mpr htext, hv], hend⟩

theorem decode_user_eq_ok_iff (h : SpellsWhole text v) :
    Json.decode User.shape.read text = .ok user ↔ User.shape.ofTree? v = some user := by
  obtain ⟨rest, htext, hend⟩ := h
  exact (User.shape_agreesOn spelled_spelling ⟨_, htext⟩).decode_eq_ok_iff hend

/-- The one member named `user` has the text of the user. -/
theorem decode_user_of_envelope (h : SpellsWhole text v) (hc : envelope.ofObject? v = some c) :
    ∃ member, textsOf "user" text = [member] ∧
      Json.decode User.shape.read member = .ok c.user := by
  obtain ⟨rest, htext, hend⟩ := h
  cases v with
  | object members =>
    rw [ofObject?_members] at hc
    obtain ⟨user, huser, hprofile⟩ := Option.bind_eq_some_iff.mp hc
    obtain ⟨profile, _, rfl⟩ := Option.map_eq_some_iff.mp hprofile
    have htexts := textsOf_spelled ⟨_, htext⟩ hend "user"
    unfold userOf? at huser
    split at huser
    · rename_i v hvalues
      rw [hvalues] at htexts
      obtain ⟨member, others, hmember, hnone, hall⟩ := List.forall₂_cons_left_iff.mp htexts
      cases hnone
      refine ⟨member, hall, ?_⟩
      exact ((User.shape_agreesOn spelled_spelling hmember).decode_eq_ok_iff rfl).mpr huser
    · cases huser
  | _ => cases hc

/-- Without a member named `user` no value is an envelope. -/
theorem ofObject?_eq_none_of_texts (h : SpellsWhole text v) (hnone : textsOf "user" text = []) :
    envelope.ofObject? v = none := by
  obtain ⟨rest, htext, hend⟩ := h
  cases v with
  | object members =>
    have htexts := textsOf_spelled ⟨_, htext⟩ hend "user"
    rw [hnone, List.forall₂_nil_right_iff] at htexts
    rw [ofObject?_members, htexts]
    rfl
  | _ => rfl

end CurrentUser

theorem answerTo_currentUser_eq_ok_iff (base : Base) (jar : Cookie.Jar) {status : Nat}
    (setCookies : Option String) (hstatus : Success status) (body : String) {c : CurrentUser} :
    answerTo base jar status setCookies body .currentUser = .currentUser (.ok c) ↔
      Json.decode CurrentUser.read body = .ok c := by
  have hanswer : answerTo base jar status setCookies body .currentUser =
      .currentUser (accepted (.ok ⟨status, body⟩) >>= decodeBody CurrentUser.read) := rfl
  rw [hanswer, accepted_bind_of_success hstatus, decodeBody, Answer.currentUser.injEq]
  cases Json.decode CurrentUser.read body <;> simp

/-- An account that is understood is a user in the text of the only member named `user`,
or it is a bare user in the whole text. A bare user in a text of free form is understood
as an account unless there is such a member. And free form takes whatever is understood
as an account, as long as no key stands for an embedded text. -/
theorem account_agrees_with_user (base : Base) (jar : Cookie.Jar) (path : String) (status : Nat)
    (setCookies : Option String) (hstatus : Success status) (body : String) :
    let answer := answerTo base jar status setCookies
    let account (c : CurrentUser) : Prop := answer body .currentUser = .currentUser (.ok c)
    let user (text : String) (u : User) : Prop :=
      answer text (.get path .user) = .decoded (.ok (.user u))
    let freeForm (v : Value) : Prop := answer body (.get path .value) = .decoded (.ok (.value v))
    (∀ c, account c →
      (∃ text, textsOf "user" body = [text] ∧ user text c.user) ∨
      (c.profile = none ∧ user body c.user)) ∧
    (∀ u v, user body u → freeForm v → textsOf "user" body = [] → account ⟨u, none⟩) ∧
    (embeddedKey ∉ keysIn body → ∀ c, account c → ∃ v, freeForm v) := by
  intro answer account user freeForm
  have haccount (c : CurrentUser) :
      account c ↔ ∃ v, SpellsWhole body v ∧ CurrentUser.ofTree? v = some c :=
    (answerTo_currentUser_eq_ok_iff base jar setCookies hstatus body).trans
      CurrentUser.decode_read_eq_ok_iff
  have huser (text : String) (u : User) :
      user text u ↔ Json.decode User.shape.read text = .ok u :=
    answerTo_get_eq_ok_iff base jar path setCookies hstatus text rfl fun _ _ => Decoded.user.inj
  have hfree (v : Value) : freeForm v ↔ parse body = .ok v :=
    answerTo_get_eq_ok_iff base jar path setCookies hstatus body rfl fun _ _ => Decoded.value.inj
  simp only [haccount, huser, hfree]
  refine ⟨?_, ?_, ?_⟩
  · rintro c ⟨v, hv, hc⟩
    unfold CurrentUser.ofTree? at hc
    split at hc
    · rename_i henvelope
      cases hc
      exact Or.inl (CurrentUser.decode_user_of_envelope hv henvelope)
    · obtain ⟨u, hu, rfl⟩ := Option.map_eq_some_iff.mp hc
      exact Or.inr ⟨rfl, (CurrentUser.decode_user_eq_ok_iff hv).mpr hu⟩
  · intro u w hu hw hnone
    obtain ⟨v, hv⟩ := exists_spellsWhole_of_parse hw
    refine ⟨v, hv, ?_⟩
    rw [CurrentUser.ofTree?, CurrentUser.ofObject?_eq_none_of_texts hv hnone,
      (CurrentUser.decode_user_eq_ok_iff hv).mp hu]
    rfl
  · rintro hkeys c ⟨v, hv, _⟩
    rw [keysIn_eq hv] at hkeys
    exact ⟨v.normal, parse_of_spellsWhole hv hkeys⟩

/-- An account in an envelope, with the user as an array under an escaped key, and a bare
user with more members than a user has. -/
theorem account_agrees_with_user_ada :
    let ada : User := ⟨7, "ada", "a@b", none, none⟩
    let answer := answerTo .default none 200 none
    let enveloped :=
      " \x7b\"profile\":\x7b\x7d , \"\\u0075ser\" : [7, \"ada\",\"a@b\" ]\x7d "
    let bare :=
      "\x7b\"id\":7,\"seen\":[\x7b\"user\":0\x7d],\"email\":\"a@b\",\"username\":\"ada\"\x7d"
    Success 200 ∧
    (∃ text, textsOf "user" enveloped = [text] ∧
      answer text (.get "/auth/me/" .user) = .decoded (.ok (.user ada))) ∧
    answer bare .currentUser = .currentUser (.ok ⟨ada, none⟩) ∧
    ∃ v, answer bare (.get "/auth/me/" .value) = .decoded (.ok (.value v)) := by
  intro ada answer enveloped bare
  have hsuccess : Success 200 := by simp [Success]
  have haccount : answer enveloped .currentUser =
      .currentUser (.ok ⟨ada, some ⟨none, false, false⟩⟩) :=
    (answerTo_currentUser_eq_ok_iff .default none none hsuccess enveloped).mpr (by decide +kernel)
  have huser : answer bare (.get "/auth/me/" .user) = .decoded (.ok (.user ada)) :=
    (answerTo_get_eq_ok_iff .default none "/auth/me/" none hsuccess bare rfl
      fun _ _ => Decoded.user.inj).mpr (by decide +kernel)
  obtain ⟨v, hv⟩ : ∃ v, (Json.parse bare).toOption = some v :=
    Option.isSome_iff_exists.mp (by decide +kernel)
  have hfree : answer bare (.get "/auth/me/" .value) = .decoded (.ok (.value v)) :=
    (answerTo_get_eq_ok_iff .default none "/auth/me/" none hsuccess bare rfl
      fun _ _ => Decoded.value.inj).mpr (eq_ok_of_toOption hv)
  obtain ⟨hforth, _, _⟩ :=
    account_agrees_with_user .default none "/auth/me/" 200 none hsuccess enveloped
  obtain ⟨_, hback, hagain⟩ :=
    account_agrees_with_user .default none "/auth/me/" 200 none hsuccess bare
  have hbare : answer bare .currentUser = .currentUser (.ok ⟨ada, none⟩) :=
    hback ada v huser hfree (by decide +kernel)
  refine ⟨hsuccess, ?_, hbare, hagain (by decide +kernel) _ hbare⟩
  obtain ⟨text, htext, huser⟩ | ⟨hnone, _⟩ := hforth _ haccount
  · exact ⟨text, htext, huser⟩
  · cases hnone

end AccountPortal
