import AccountPortal.Proofs.Json.RoundTrip

/-!
Objects all of whose members are strings. A form is sent as one. Its text is read
as the object again, member by member, and parsed as the object in normal form.
-/
namespace AccountPortal.Form

open Json

/-- An object all of whose members are strings. -/
def textObject (members : List (String × String)) : Value :=
  .object (members.map fun m => (m.1, .string m.2))

section TextObject

variable (members : List (String × String))

theorem numbers_textObject : (textObject members).numbers = [] := by
  induction members with
  | nil => rfl
  | cons m rest ih => exact ih

theorem depth_textObject : (textObject members).depth = 1 := by
  induction members with
  | nil => rfl
  | cons m rest ih => simpa [textObject, Value.depth, Value.membersDepth] using ih

theorem keys_textObject : (textObject members).keys = members.map (·.1) := by
  induction members with
  | nil => rfl
  | cons m rest ih =>
    simpa [textObject, Value.keys, Value.membersKeys] using ih

theorem fits_textObject : (textObject members).Fits := by
  simp [Value.Fits, numbers_textObject]

/-- The text of such an object is read as the object, member by member. -/
theorem readTree_textObject :
    Json.decode readTree (textObject members).compact = .ok (textObject members) := by
  have hread := readTree_write (fits_textObject members)
    (by rw [depth_textObject, depthLimit]; omega) endsNumber_nil
  rw [List.append_nil] at hread
  exact decode_ofList hread

theorem parse_textObject (h : embeddedKey ∉ members.map (·.1)) :
    Json.parse (textObject members).compact = .ok (textObject members).normal := by
  apply parse_compact (fits_textObject members)
  · rw [depth_textObject, depthLimit]
    omega
  · rw [keys_textObject]
    exact h

end TextObject

end AccountPortal.Form
