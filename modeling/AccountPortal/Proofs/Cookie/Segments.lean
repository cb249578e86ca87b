import AccountPortal.Cookie
import AccountPortal.Proofs.Text.Pieces

/-!
Cookie strings that are put together from names and values. Each cookie is found again
under its exact name, unless an earlier one has the same name or its value is empty.
Blanks around a segment do not matter, and a value may hold what looks like another
cookie.
-/
namespace AccountPortal.Cookie

open Text

/-- The value of the first segment with the name counts unless it is empty. -/
theorem find?_eq_filter (raw name : String) :
    find? raw name =
      ((valueIn? name.toList (pieces ';' raw.toList)).map String.ofList).filter (· ≠ "") := by
  rw [find?]
  split
  · rename_i hvalue
    rw [hvalue]
    rfl
  · rename_i value hne hvalue
    have hvalue' : String.ofList value ≠ "" := fun h => hne (String.ofList_injective h)
    rw [hvalue, Option.map_some, Option.filter_some, if_pos (by simpa using hvalue')]
  · rename_i hvalue
    rw [hvalue]
    rfl

theorem not_mem_of_blank {blanks : List Char} (h : blanks.all isBlank = true) : ';' ∉ blanks := by
  intro hmem
  have hblank := List.all_eq_true.mp h ';' hmem
  exact absurd hblank (by decide)

/-- A segment of a cookie string that holds a cookie, with blanks on both sides. -/
structure Segment where
  name : String
  value : String
  before : List Char := []
  after : List Char := []
  name_unbroken : ';' ∉ name.toList := by decide
  name_undivided : '=' ∉ name.toList := by decide
  name_trimmed : trim name = name := by decide +kernel
  value_unbroken : ';' ∉ value.toList := by decide
  value_trimmed : trim value = value := by decide +kernel
  before_blank : before.all isBlank = true := by decide
  after_blank : after.all isBlank = true := by decide

namespace Segment

def text (s : Segment) : List Char :=
  s.before ++ (s.name.toList ++ '=' :: s.value.toList) ++ s.after

def line (segments : List Segment) : String :=
  String.ofList ([';'].intercalate (segments.map text))

variable (s : Segment)

theorem trimChars_text : trimChars s.text = s.name.toList ++ '=' :: s.value.toList := by
  have hequals : isBlank '=' = false := by decide
  rw [text, trimChars_append_right _ s.after_blank, trimChars_append_left s.before_blank]
  apply trimChars_of_ends
  · intro c hc
    cases hname : s.name.toList with
    | nil =>
      obtain rfl : '=' = c := by simpa [hname] using hc
      exact hequals
    | cons first rest =>
      apply head?_trimChars s.name.toList
      rw [trimChars_eq_self s.name_trimmed, hname]
      simpa [hname] using hc
  · intro c hc
    cases hvalue : s.value.toList with
    | nil =>
      obtain rfl : '=' = c := by simpa [hvalue] using hc
      exact hequals
    | cons first rest =>
      apply getLast?_trimChars s.value.toList
      rw [trimChars_eq_self s.value_trimmed, hvalue]
      simpa [hvalue] using hc

theorem segment?_text : segment? s.text = some (s.name.toList, s.value.toList) := by
  rw [segment?, trimChars_text, cut?_eq_some s.name_undivided]

theorem not_mem_text : ';' ∉ s.text := by
  simp [text, not_mem_of_blank s.before_blank, not_mem_of_blank s.after_blank, s.name_unbroken,
    s.value_unbroken]

/-- The first segment with the name decides. -/
theorem valueIn?_texts (name : String) (segments : List Segment) :
    valueIn? name.toList (segments.map text) =
      (segments.find? fun s => s.name = name).map fun s => s.value.toList := by
  induction segments with
  | nil => rfl
  | cons s rest ih =>
    rw [List.map_cons, valueIn?, segment?_text]
    by_cases hname : s.name = name
    · simp [hname, trimChars_eq_self s.value_trimmed]
    · simp [hname, ih, String.toList_inj]

theorem pieces_line {segments : List Segment} (hne : segments ≠ []) :
    pieces ';' (line segments).toList = segments.map text := by
  rw [line, String.toList_ofList, pieces_eq_splitOn]
  apply List.splitOn_intercalate
  · intro piece hpiece
    obtain ⟨s, _, rfl⟩ := List.mem_map.mp hpiece
    exact s.not_mem_text
  · simpa using hne

end Segment

open Segment

/-- A cookie string tells under a name the value of the first segment with exactly that
name, unless it is empty. So nothing is found under a name that no segment has, however
alike the names and whatever the values hold. -/
theorem find?_line (segments : List Segment) (name : String) :
    find? (line segments) name =
      ((segments.find? fun s => s.name = name).map fun s => s.value).filter (· ≠ "") ∧
    ((∀ s ∈ segments, s.name ≠ name) → find? (line segments) name = none) ∧
    (∀ value, find? (line segments) name = some value →
      value ≠ "" ∧ ∃ s ∈ segments, s.name = name ∧ s.value = value) := by
  have hfound : find? (line segments) name =
      ((segments.find? fun s => s.name = name).map fun s => s.value).filter (· ≠ "") := by
    by_cases hne : segments = []
    · subst hne
      rfl
    · rw [find?_eq_filter, pieces_line hne, valueIn?_texts, Option.map_map]
      simp only [Function.comp_def, String.ofList_toList]
  refine ⟨hfound, ?_, ?_⟩
  · intro hnone
    have hfind : segments.find? (fun s => s.name = name) = none := by
      simpa using hnone
    rw [hfound, hfind]
    rfl
  · intro value hvalue
    rw [hfound, Option.filter_eq_some_iff, Option.map_eq_some_iff] at hvalue
    obtain ⟨⟨s, hs, rfl⟩, hpresent⟩ := hvalue
    have hname : s.name = name := by simpa using List.find?_some hs
    exact ⟨by simpa using hpresent, s, List.mem_of_find?_eq_some hs, hname, rfl⟩

/-- Names that contain one another, and values that look like other cookies. -/
example :
    let segments : List Segment :=
      [{ name := "xn", value := "n=1" }, { name := "N", value := "2", before := [' '] },
        { name := "", value := "n=3" }, { name := "n", value := "n=4=", after := ['\t', ' '] }]
    line segments = "xn=n=1; N=2;=n=3;n=n=4=\t " ∧ find? (line segments) "n" = some "n=4=" := by
  decide +kernel

end AccountPortal.Cookie
