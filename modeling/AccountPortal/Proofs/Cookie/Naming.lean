import AccountPortal.Proofs.Cookie.Segments

/-!
Cookie strings of any text. A segment names what stands before its first equals sign once
it is trimmed, and the first segment that names a cookie decides, even by an empty value.
So of two cookie strings put together the second one counts only for names that the first
one does not have, and a value that is found stands in the string behind its name.
-/
namespace AccountPortal.Cookie

open Text

/-- The segment, trimmed, has an equals sign and exactly the name before the first one. -/
def Names (name : String) (segment : List Char) : Prop :=
  '=' ∈ trimChars segment ∧ (trimChars segment).takeWhile (· ≠ '=') = name.toList

instance (name : String) (segment : List Char) : Decidable (Names name segment) :=
  inferInstanceAs (Decidable (_ ∧ _))

def Named (name raw : String) : Prop :=
  ∃ segment ∈ raw.toList.splitOn ';', Names name segment

instance (name raw : String) : Decidable (Named name raw) :=
  inferInstanceAs (Decidable (∃ segment ∈ raw.toList.splitOn ';', Names name segment))

/-- The segment, trimmed, is the name without an equals sign in it, an equals sign and,
but for blanks around it, the value. -/
def Gives (name : String) (segment value : List Char) : Prop :=
  '=' ∉ name.toList ∧
    ∃ rest, trimChars segment = name.toList ++ '=' :: rest ∧ trimChars rest = value

theorem names_iff {name : String} {segment : List Char} :
    Names name segment ↔ ∃ value, Gives name segment value := by
  rw [Names, takeWhile_ne_eq_iff]
  constructor
  · rintro ⟨hname, rest, hsegment⟩
    exact ⟨trimChars rest, hname, rest, hsegment, rfl⟩
  · rintro ⟨_, hname, rest, hsegment, _⟩
    exact ⟨hname, rest, hsegment⟩

namespace Gives

variable {name : String} {segment value : List Char}

theorem trimmed (h : Gives name segment value) : trimChars value = value := by
  obtain ⟨_, rest, _, rfl⟩ := h
  exact trimChars_idem rest

/-- Where name and value stand in the segment. -/
theorem exists_blanks (h : Gives name segment value) :
    ∃ before between after : List Char,
      before.all isBlank = true ∧ between.all isBlank = true ∧ after.all isBlank = true ∧
      segment = before ++ name.toList ++ '=' :: between ++ value ++ after := by
  obtain ⟨_, rest, hsegment, rfl⟩ := h
  obtain ⟨before, after, hbefore, hafter, houter⟩ := exists_ends_trimChars segment
  obtain ⟨between, behind, hbetween, hbehind, hinner⟩ := exists_ends_trimChars rest
  refine ⟨before, between, behind ++ after, hbefore, hbetween, ?_, ?_⟩
  · rw [List.all_append, hbehind, hafter]
    rfl
  · calc
      segment = before ++ (name.toList ++ '=' :: rest) ++ after := by rw [← hsegment, ← houter]
      _ = before ++ (name.toList ++ '=' :: (between ++ trimChars rest ++ behind)) ++ after := by
        rw [← hinner]
      _ = before ++ name.toList ++ '=' :: between ++ trimChars rest ++ (behind ++ after) := by
        simp only [List.append_assoc, List.cons_append]

end Gives

/-- The value that a segment by itself tells under the name. -/
def given? (name segment : List Char) : Option (List Char) :=
  match segment? segment with
  | some (key, value) => if key = name then some (trimChars value) else none
  | none => none

theorem given?_eq_some_iff {name : String} {segment value : List Char} :
    given? name.toList segment = some value ↔ Gives name segment value := by
  constructor
  · intro h
    rw [given?] at h
    split at h
    · rename_i key rest hsegment
      split at h
      · rename_i hkey
        subst hkey
        have hname := not_mem_of_cut? hsegment
        exact ⟨hname, rest, (cut?_eq_some hname).mp hsegment, Option.some.inj h⟩
      · cases h
    · cases h
  · rintro ⟨hname, rest, hsegment, rfl⟩
    have hcut : segment? segment = some (name.toList, rest) := (cut?_eq_some hname).mpr hsegment
    rw [given?, hcut]
    exact if_pos rfl

theorem isSome_given? {name : String} {segment : List Char} :
    (given? name.toList segment).isSome ↔ Names name segment := by
  simp only [names_iff, Option.isSome_iff_exists, given?_eq_some_iff]

theorem valueIn?_eq_findSome? (name : List Char) (segments : List (List Char)) :
    valueIn? name segments = segments.findSome? (given? name) := by
  induction segments with
  | nil => rfl
  | cons segment rest ih =>
    rw [valueIn?, List.findSome?_cons, given?]
    cases segment? segment with
    | none => exact ih
    | some pair =>
      by_cases hkey : pair.1 = name
      · simp [hkey]
      · simp [hkey, ih]

theorem isSome_valueIn? {name : String} {segments : List (List Char)} :
    (valueIn? name.toList segments).isSome ↔ ∃ segment ∈ segments, Names name segment := by
  simp only [valueIn?_eq_findSome?, List.findSome?_isSome_iff, isSome_given?]

theorem valueIn?_append (name : List Char) (first second : List (List Char)) :
    valueIn? name (first ++ second) = (valueIn? name first).or (valueIn? name second) := by
  simp only [valueIn?_eq_findSome?, List.findSome?_append]

theorem valueIn?_eq_some_iff {name : String} {segments : List (List Char)} {value : List Char} :
    valueIn? name.toList segments = some value ↔
      ∃ earlier segment later, segments = earlier ++ segment :: later ∧
        Gives name segment value ∧ ∀ s ∈ earlier, ¬ Names name s := by
  simp only [valueIn?_eq_findSome?, List.findSome?_eq_some_iff, given?_eq_some_iff,
    ← isSome_given?, Option.not_isSome_iff_eq_none]

/-- A name that the first string does not have is looked up in the second one. -/
theorem find?_append_semicolon (a b name : String) :
    find? (a ++ ";" ++ b) name = if Named name a then find? a name else find? b name := by
  have hpieces : pieces ';' (a ++ ";" ++ b).toList = pieces ';' a.toList ++ pieces ';' b.toList := by
    simp [← pieces_append]
  have hnamed : Named name a ↔ (valueIn? name.toList (pieces ';' a.toList)).isSome := by
    rw [isSome_valueIn?, pieces_eq_splitOn, Named]
  simp only [find?_eq_filter, hpieces, valueIn?_append, hnamed]
  cases valueIn? name.toList (pieces ';' a.toList) with
  | none => simp
  | some value => simp

/-- What is found is what the first segment that names it gives, unless that is empty. -/
theorem find?_eq_some_iff {raw name value : String} :
    find? raw name = some value ↔ value ≠ "" ∧
      ∃ earlier segment later, raw.toList.splitOn ';' = earlier ++ segment :: later ∧
        Gives name segment value.toList ∧ ∀ s ∈ earlier, ¬ Names name s := by
  have hchars (o : Option (List Char)) :
      o.map String.ofList = some value ↔ o = some value.toList := by
    rw [Option.map_eq_some_iff]
    constructor
    · rintro ⟨chars, rfl, rfl⟩
      rw [String.toList_ofList]
    · rintro rfl
      exact ⟨value.toList, rfl, String.ofList_toList⟩
  rw [find?_eq_filter, Option.filter_eq_some_iff, hchars, valueIn?_eq_some_iff, pieces_eq_splitOn]
  simp [and_comm]

/-- Name and value that a segment of the string gives hold no semicolon and stand in the
string one behind the other. -/
theorem Gives.exists_in_string {raw name value : String} {segment : List Char}
    (hmem : segment ∈ raw.toList.splitOn ';') (h : Gives name segment value.toList) :
    ';' ∉ value.toList ∧ ';' ∉ name.toList ∧
      ∃ before between after : String, blank between = true ∧
        raw = before ++ name ++ "=" ++ between ++ value ++ after := by
  rw [← pieces_eq_splitOn] at hmem
  have hunbroken := not_mem_of_mem_pieces hmem
  obtain ⟨front, back, hraw⟩ := isInfix_of_mem_pieces hmem
  obtain ⟨before, between, after, _, hbetween, _, rfl⟩ := h.exists_blanks
  refine ⟨fun hc => hunbroken (by simp [hc]), fun hc => hunbroken (by simp [hc]),
    String.ofList (front ++ before), String.ofList between, String.ofList (after ++ back), ?_, ?_⟩
  · rwa [blank, String.toList_ofList]
  · apply String.toList_inj.mp
    simp [← hraw]

/-- Of two cookie strings put together, the first one decides about every name that one of
its segments has, and the second one about all others. What is found is the value of the
first segment with the name, if that is not empty: a trimmed text without semicolons that
stands in the string, blanks apart, right behind the name and an equals sign. -/
theorem find?_first_naming (a b raw name : String) :
    find? (a ++ ";" ++ b) name = (if Named name a then find? a name else find? b name) ∧
    ∀ value,
      (find? raw name = some value ↔ value ≠ "" ∧
        ∃ earlier segment later, raw.toList.splitOn ';' = earlier ++ segment :: later ∧
          Gives name segment value.toList ∧ ∀ s ∈ earlier, ¬ Names name s) ∧
      (find? raw name = some value →
        value ≠ "" ∧ ';' ∉ value.toList ∧ trim value = value ∧
        ';' ∉ name.toList ∧ '=' ∉ name.toList ∧
        ∃ before between after : String, blank between = true ∧
          raw = before ++ name ++ "=" ++ between ++ value ++ after) := by
  refine ⟨find?_append_semicolon a b name, ?_⟩
  intro value
  refine ⟨find?_eq_some_iff, ?_⟩
  intro hfound
  obtain ⟨hpresent, earlier, segment, later, hsegments, hgives, _⟩ := find?_eq_some_iff.mp hfound
  have hmem : segment ∈ raw.toList.splitOn ';' := by simp [hsegments]
  obtain ⟨hvalue, hname, hplace⟩ := hgives.exists_in_string hmem
  have htrimmed : trim value = value := by
    rw [trim, hgives.trimmed, String.ofList_toList]
  exact ⟨hpresent, hvalue, htrimmed, hname, hgives.1, hplace⟩

/-- Segments without an equals sign, a name that ends in a blank, and an empty value that
hides the one behind it. -/
example :
    let raw := " ;n;n = 1;n=\t2 =;=;n=3;=4"
    find? raw "n" = some "2 =" ∧ find? raw "n " = some "1" ∧ find? raw "" = none ∧
      find? (";;n;=" ++ ";" ++ raw) "n" = some "2 =" := by
  decide +kernel

end AccountPortal.Cookie
