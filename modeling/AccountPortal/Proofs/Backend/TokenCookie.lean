import AccountPortal.Proofs.Backend.TokenHeader
import AccountPortal.Proofs.Cookie.Naming

/-!
Which token a cookie string holds. The first segment with the name of the token
decides, also by an empty value. So a request goes without a token if an empty
one stands before all others, and this is the only way in which a token that is
in the string can be missed.
-/
namespace AccountPortal.Cookie

open Text

/-- The value, trimmed, that a segment gives to the token: there is one if the
segment, trimmed, begins with the name of the token and an equals sign. -/
def tokenValue? (segment : List Char) : Option String :=
  if "csrftoken=".toList <+: trimChars segment then
    some (String.ofList (trimChars ((trimChars segment).drop 10)))
  else none

def tokenValues (raw : String) : List String := (raw.toList.splitOn ';').filterMap tokenValue?

theorem tokenValue?_eq_given? (segment : List Char) :
    tokenValue? segment = (given? csrfName.toList segment).map String.ofList := by
  by_cases hprefix : "csrftoken=".toList <+: trimChars segment
  · obtain ⟨rest, hrest⟩ := hprefix
    have hgiven : given? csrfName.toList segment = some (trimChars rest) :=
      given?_eq_some_iff.mpr ⟨by decide, rest, hrest.symm, rfl⟩
    rw [tokenValue?, ← hrest, if_pos (List.prefix_append _ _), hgiven]
    rfl
  · have hgiven : given? csrfName.toList segment = none := by
      rw [Option.eq_none_iff_forall_ne_some]
      intro value hvalue
      obtain ⟨_, rest, hrest, _⟩ := given?_eq_some_iff.mp hvalue
      exact hprefix ⟨rest, hrest.symm⟩
    rw [tokenValue?, if_neg hprefix, hgiven]
    rfl

/-- The first segment with the token's name decides. -/
theorem valueIn?_token (segments : List (List Char)) :
    (valueIn? csrfName.toList segments).map String.ofList =
      (segments.filterMap tokenValue?).head? := by
  rw [valueIn?_eq_findSome?, List.map_findSome?, List.head?_filterMap]
  exact congrArg (fun tells => segments.findSome? tells)
    (funext fun segment => (tokenValue?_eq_given? segment).symm)

theorem find?_token (raw : String) :
    find? raw csrfName = (tokenValues raw).head?.filter (· ≠ "") := by
  rw [find?_eq_filter, valueIn?_token, tokenValues, pieces_eq_splitOn]

end AccountPortal.Cookie

namespace AccountPortal.Backend.Dialogue

open Cookie

/-- What an operation sends or builds on a cookie string carries the first value
that the string gives to the token, unless it is empty. So only a value that is
there is sent, and one is missed exactly when an empty one stands before it. -/
theorem requests_carry_first_token (base : Base) (raw : String) (op : Operation) (reply : Reply) :
    let first := (tokenValues raw).head?.filter (· ≠ "")
    (∀ r ∈ (perform base (some raw) op reply).requests, r.header? "X-CSRFToken" = first) ∧
    (∀ token, first = some token → token ∈ tokenValues raw ∧ token ≠ "") ∧
    ((first.isSome ↔ ∃ token ∈ tokenValues raw, token ≠ "") ↔
      ¬ ((tokenValues raw).head? = some "" ∧ ∃ token ∈ tokenValues raw, token ≠ "")) := by
  intro first
  refine ⟨?_, ?_, ?_⟩
  · intro r hr
    have hheader := (perform_marked base (some raw) op reply r hr).header "X-CSRFToken"
    have hkind : "X-CSRFToken".toLower ≠ "content-type" := by decide +kernel
    have hname : "X-CSRFToken".toLower = "x-csrftoken" := by decide +kernel
    rw [hheader, if_neg hkind, if_pos hname]
    exact find?_token raw
  · intro token htoken
    obtain ⟨hhead, hne⟩ := Option.filter_eq_some_iff.mp htoken
    exact ⟨List.mem_of_mem_head? hhead, by simpa using hne⟩
  · cases hvalues : tokenValues raw with
    | nil => simp [first, hvalues]
    | cons token rest =>
      by_cases hempty : token = ""
      · simp [first, hvalues, hempty, Option.filter]
      · simp [first, hvalues, hempty, Option.filter]

/-- An empty token hides the one behind it. -/
theorem empty_token_hides :
    ¬ ∀ (base : Base) (raw : String) (op : Operation) (reply : Reply),
      ∀ r ∈ (perform base (some raw) op reply).requests,
        ((r.header? "X-CSRFToken").isSome ↔ ∃ token ∈ tokenValues raw, token ≠ "") ∧
        ∀ token, r.header? "X-CSRFToken" = some token →
          token ∈ tokenValues raw ∧ token ≠ "" := by
  intro h
  have hbuilt := h .default "csrftoken=; csrftoken=abc" (.buildRequest .get "/auth/me/" none)
    ⟨.error .unavailable, none⟩ _ (List.mem_singleton_self _)
  have hvalues : tokenValues "csrftoken=; csrftoken=abc" = ["", "abc"] := by decide +kernel
  have hheader : (buildRequest .default (some "csrftoken=; csrftoken=abc") .get "/auth/me/"
      none).header? "X-CSRFToken" = none := by decide +kernel
  rw [hheader, hvalues] at hbuilt
  exact absurd (hbuilt.1.mpr ⟨"abc", by simp, by simp⟩) (by simp)

end AccountPortal.Backend.Dialogue
