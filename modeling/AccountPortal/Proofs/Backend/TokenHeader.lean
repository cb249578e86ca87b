import AccountPortal.Proofs.Backend.Dialogue

/-!
Every request carries the token of the moment at which it is built. The store of
that moment decides the two headers, so a token that comes with the reply to a
request is on the next request and never on that request itself.
-/
namespace AccountPortal.Text

theorem lowerAscii_eq_toLower (c : Char) : lowerAscii c = c.toLower := by
  unfold lowerAscii Char.toLower
  by_cases h : 'A' ≤ c ∧ c ≤ 'Z'
  · have hval : c.val ≥ 'A'.val ∧ c.val ≤ 'Z'.val := h
    have hnat : 65 ≤ c.toNat ∧ c.toNat ≤ 90 := h
    have hvalid : (c.toNat + 32).isValidChar := Or.inl (by omega)
    rw [dif_pos hval, if_pos (by simpa using h), Char.ofNat, dif_pos hvalid]
    apply Char.ext
    apply UInt32.toNat_inj.mp
    change c.toNat + 32 = (c.val + 32).toNat
    rw [UInt32.toNat_add, Char.toNat_val]
    change c.toNat + 32 = (c.toNat + 32) % 2 ^ 32
    omega
  · have hval : ¬ (c.val ≥ 'A'.val ∧ c.val ≤ 'Z'.val) := h
    rw [dif_neg hval, if_neg (by simpa using h)]

theorem sameIgnoringCase_iff (a b : String) :
    sameIgnoringCase a b = true ↔ a.toLower = b.toLower := by
  have hlower : lowerAscii = Char.toLower := funext lowerAscii_eq_toLower
  have hmap (s : String) : s.toLower.toList = s.toList.map Char.toLower := String.toList_map
  rw [sameIgnoringCase, beq_iff_eq, hlower, ← String.toList_inj, hmap, hmap]

end AccountPortal.Text

namespace AccountPortal.Backend.Dialogue

open Http Cookie

/-- A request that goes along with its cookies and has the headers that belong to
a store: its token, if there is one, and nothing else but the kind of its body. -/
structure Marked (jar : Jar) (r : Request) : Prop where
  credentials : r.withCredentials = true
  headers : r.headers = ("Content-Type", "application/json") ::
    ((jar.get? "csrftoken").map fun token => ("X-CSRFToken", token)).toList
  header : ∀ name, r.header? name =
    if name.toLower = "content-type" then some "application/json"
    else if name.toLower = "x-csrftoken" then jar.get? "csrftoken"
    else none

theorem headersFor_eq (token : Option String) :
    headersFor token = ("Content-Type", "application/json") ::
      (token.map fun t => ("X-CSRFToken", t)).toList := by
  cases token with
  | none => rfl
  | some t => rfl

theorem sameIgnoringCase_contentType (name : String) :
    Text.sameIgnoringCase "Content-Type" name = true ↔ name.toLower = "content-type" := by
  have hlower : "Content-Type".toLower = "content-type" := by decide +kernel
  rw [Text.sameIgnoringCase_iff, hlower]
  exact eq_comm

theorem sameIgnoringCase_csrfHeader (name : String) :
    Text.sameIgnoringCase "X-CSRFToken" name = true ↔ name.toLower = "x-csrftoken" := by
  have hlower : "X-CSRFToken".toLower = "x-csrftoken" := by decide +kernel
  rw [Text.sameIgnoringCase_iff, hlower]
  exact eq_comm

/-- A name finds a header in whatever case its letters are, and no other name does. -/
theorem header?_eq (r : Request) (token : Option String)
    (h : r.headers = ("Content-Type", "application/json") ::
      (token.map fun t => ("X-CSRFToken", t)).toList) (name : String) :
    r.header? name =
      if name.toLower = "content-type" then some "application/json"
      else if name.toLower = "x-csrftoken" then token
      else none := by
  have hkind := sameIgnoringCase_contentType name
  have htoken := sameIgnoringCase_csrfHeader name
  by_cases hk : name.toLower = "content-type"
  · simp [Request.header?, h, hkind.mpr hk, hk]
  · have hkind' : Text.sameIgnoringCase "Content-Type" name = false :=
      Bool.eq_false_iff.mpr fun hc => hk (hkind.mp hc)
    cases token with
    | none => simp [Request.header?, h, hkind', hk]
    | some t =>
      by_cases ht : name.toLower = "x-csrftoken"
      · simp [Request.header?, h, hkind', htoken.mpr ht, ht]
      · have htoken' : Text.sameIgnoringCase "X-CSRFToken" name = false :=
          Bool.eq_false_iff.mpr fun hc => ht (htoken.mp hc)
        simp [Request.header?, h, hkind', htoken', hk, ht]

theorem buildRequest_marked (base : Base) (jar : Jar) (method : Method) (path : String)
    (body : Option String) : Marked jar (buildRequest base jar method path body) where
  credentials := rfl
  headers := headersFor_eq jar.token?
  header := header?_eq _ (jar.get? "csrftoken") (headersFor_eq jar.token?)

theorem perform_marked (base : Base) (jar : Jar) (op : Operation) (reply : Reply) :
    ∀ r ∈ (perform base jar op reply).requests, Marked jar r := by
  intro r hr
  obtain ⟨method, path, body, rfl⟩ := built_of_mem_requests base jar op reply hr
  exact buildRequest_marked base jar method path body

/-- Every request of a whole dialogue is marked with the store that its operation found. -/
theorem play_marked (base : Base) (jar : Jar) (moves : List Move) :
    ∀ d ∈ (play base jar moves).1, ∀ r ∈ d.requests, Marked d.before r := by
  intro d hd r hr
  rw [eq_perform_of_mem base jar moves d hd] at hr
  exact perform_marked base d.before d.op d.reply r hr

/-- The answer to the bootstrap is about the store that its reply has left. -/
theorem perform_bootstrap (base : Base) (jar : Jar) (reply : Reply) :
    (perform base jar .bootstrap reply).step.answer =
      .ready (Jar.get? (reply.setCookies.or jar) "csrftoken").isSome := by
  rw [perform_exchange base jar .bootstrap reply rfl]
  rfl

/-- In a dialogue with any operation and any reply at any place: all requests
carry the token of their moment. The operation finds the store that the moves
before it have left; its own reply has no part in what it sends or builds, but
the store which that reply leaves marks the requests of the next operation. -/
theorem requests_carry_token (base : Base) (jar : Jar) (before after : List Move)
    (op : Operation) (reply : Reply) :
    let store := (play base jar before).2
    let deed := perform base store op reply
    let deeds := (play base jar (before ++ .operation op reply :: after)).1
    deeds = (play base jar before).1 ++ deed :: (play base deed.after after).1 ∧
    (∀ d ∈ deeds, ∀ r ∈ d.requests, Marked d.before r) ∧
    (∀ r ∈ deed.requests, Marked store r) ∧
    (∀ other, (perform base store op other).requests = deed.requests) ∧
    deed.after = (if deed.step.sent = [] then store else reply.setCookies.or store) ∧
    (∀ next later, ∀ r ∈ (perform base deed.after next later).requests, Marked deed.after r) ∧
    (perform base store .bootstrap reply).step.answer =
      .ready (Jar.get? (reply.setCookies.or store) "csrftoken").isSome := by
  intro store deed deeds
  refine ⟨?_, play_marked base jar _, perform_marked base store op reply, ?_,
    perform_after base store op reply, ?_, perform_bootstrap base store reply⟩
  · exact congrArg Prod.fst (play_append base jar before (.operation op reply :: after))
  · exact fun other => perform_requests_reply base store op reply other
  · exact fun next later => perform_marked base deed.after next later

end AccountPortal.Backend.Dialogue
