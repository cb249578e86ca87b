import AccountPortal.Proofs.Backend.TokenHeader
import AccountPortal.Proofs.Form.TextObject

/-!
Requests as their receiver finds them: the address is the base and the path of the
endpoint, written out, and the body of a form is what reading it as JSON yields.
-/
namespace AccountPortal.Backend

open Dialogue Form Http Json

/-- A request that takes a form to an address: whoever reads its body finds an object
whose members are the strings of the form, in order. -/
structure Submits (r : Request) (address : String) (members : List (String × String)) : Prop where
  method : r.method = .post
  url : r.url = address
  credentials : r.withCredentials = true
  body : ∃ text, r.body = some text ∧
    Json.decode readTree text = .ok (.object (members.map fun m => (m.1, .string m.2)))

theorem submits_buildRequest {base : Base} {path address : String}
    (h : base.endpoint path = address) (jar : Cookie.Jar) (members : List (String × String)) :
    Submits (buildRequest base jar .post path (some (textObject members).compact)) address
      members where
  method := rfl
  url := h
  credentials := rfl
  body := ⟨_, rfl, readTree_textObject members⟩

/-- A path that starts with one slash is put behind the base as it is. -/
theorem Base.endpoint_append (base : Base) {path : String}
    (h : "/" ++ String.ofList (path.toList.dropWhile (· == '/')) = path) :
    base.endpoint path = base.address ++ path := by
  rw [endpoint, String.append_assoc, h]

section Endpoints

variable (base : Base)

theorem endpoint_register : base.endpoint registerPath = base.address ++ "/auth/register/" :=
  base.endpoint_append (by decide)

theorem endpoint_login : base.endpoint loginPath = base.address ++ "/auth/login/" :=
  base.endpoint_append (by decide)

theorem endpoint_me : base.endpoint mePath = base.address ++ "/auth/me/" :=
  base.endpoint_append (by decide)

theorem endpoint_logout : base.endpoint logoutPath = base.address ++ "/auth/logout/" :=
  base.endpoint_append (by decide)

end Endpoints

end AccountPortal.Backend
