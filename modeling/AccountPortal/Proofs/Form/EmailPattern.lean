import AccountPortal.Form.Email
import AccountPortal.Proofs.Text.Pieces

/-!
The form of an e-mail address as a language. Patterns get their meaning as a relation
between a stretch of a text and what stands around it, and a text is an address exactly
if the pattern of addresses is found in it. That pattern leaves open which dot of the
domain is its own, so addresses are first told by what they are made of: a name, an at
sign, and a domain with a dot between other characters.
-/
namespace AccountPortal.Text

/-- A pattern, put together from single characters and the two ends of the text. -/
inductive Pattern where
  /-- The beginning of the text. -/
  | start
  /-- The end of the text; the place before a line feed at the end is not it. -/
  | stop
  | letter (c : Char)
  /-- One character that is neither white space nor `c`. -/
  | solidExcept (c : Char)
  | oneOrMore (p : Pattern)
  | next (p q : Pattern)

namespace Pattern

def quoted (c : Char) : String :=
  if "\\.+*?()|[]\x7b\x7d^$".toList.contains c then String.ofList ['\\', c]
  else String.ofList [c]

/-- A pattern as it is usually written. -/
def source : Pattern → String
  | .start => "^"
  | .stop => "$"
  | .letter c => quoted c
  | .solidExcept c => "[^\\s" ++ quoted c ++ "]"
  | .oneOrMore p => p.source ++ "+"
  | .next p q => p.source ++ q.source

/-- A stretch of a text matches a pattern between what stands before and after it. -/
inductive Matches : Pattern → List Char → List Char → List Char → Prop where
  | start (after : List Char) : Matches .start [] [] after
  | stop (before : List Char) : Matches .stop before [] []
  | letter (c : Char) (before after : List Char) : Matches (.letter c) before [c] after
  | solidExcept {c d : Char} (before after : List Char) :
      d ≠ c → isBlank d = false → Matches (.solidExcept c) before [d] after
  | once {p : Pattern} {before w after : List Char} :
      Matches p before w after → Matches (.oneOrMore p) before w after
  | more {p : Pattern} {before v w after : List Char} :
      Matches p before v (w ++ after) → Matches (.oneOrMore p) (before ++ v) w after →
      Matches (.oneOrMore p) before (v ++ w) after
  | next {p q : Pattern} {before v w after : List Char} :
      Matches p before v (w ++ after) → Matches q (before ++ v) w after →
      Matches (.next p q) before (v ++ w) after

/-- Some stretch of the text matches. -/
def FoundIn (p : Pattern) (text : List Char) : Prop :=
  ∃ before w after, text = before ++ w ++ after ∧ p.Matches before w after

section Matches

variable {p q : Pattern} {before w after : List Char} {c : Char}

theorem matches_start : start.Matches before w after ↔ before = [] ∧ w = [] := by
  constructor
  · intro h
    cases h
    exact ⟨rfl, rfl⟩
  · rintro ⟨rfl, rfl⟩
    exact .start after

theorem matches_stop : stop.Matches before w after ↔ w = [] ∧ after = [] := by
  constructor
  · intro h
    cases h
    exact ⟨rfl, rfl⟩
  · rintro ⟨rfl, rfl⟩
    exact .stop before

theorem matches_letter : (letter c).Matches before w after ↔ w = [c] := by
  constructor
  · intro h
    cases h
    rfl
  · rintro rfl
    exact .letter c before after

theorem matches_next : (next p q).Matches before w after ↔
    ∃ u v, w = u ++ v ∧ p.Matches before u (v ++ after) ∧ q.Matches (before ++ u) v after := by
  constructor
  · intro h
    cases h with
    | next hp hq => exact ⟨_, _, rfl, hp, hq⟩
  · rintro ⟨u, v, rfl, hp, hq⟩
    exact .next hp hq

def Solid (c : Char) (w : List Char) : Prop := ∀ d ∈ w, d ≠ c ∧ isBlank d = false

theorem Solid.not_mem (h : Solid c w) : c ∉ w := fun hc => (h c hc).1 rfl

theorem solid_append {v : List Char} : Solid c (v ++ w) ↔ Solid c v ∧ Solid c w :=
  List.forall_mem_append

theorem solid_of_matches (h : (oneOrMore (solidExcept c)).Matches before w after) :
    w ≠ [] ∧ Solid c w := by
  generalize hp : oneOrMore (solidExcept c) = p at h
  induction h with
  | once h =>
    cases hp
    cases h with
    | solidExcept _ _ hne hblank => exact ⟨by simp, by simp [Solid, hne, hblank]⟩
  | more h _ _ ih =>
    cases hp
    obtain ⟨hne, hrest⟩ := ih rfl
    cases h with
    | solidExcept _ _ hdiff hblank =>
      exact ⟨by simp, solid_append.mpr ⟨by simp [Solid, hdiff, hblank], hrest⟩⟩
  | _ => cases hp

theorem matches_of_solid (hne : w ≠ []) (h : Solid c w) :
    (oneOrMore (solidExcept c)).Matches before w after := by
  induction w generalizing before with
  | nil => exact absurd rfl hne
  | cons d rest ih =>
    obtain ⟨hdiff, hblank⟩ := h d List.mem_cons_self
    cases rest with
    | nil => exact .once (.solidExcept _ _ hdiff hblank)
    | cons e rest =>
      have hrest : (oneOrMore (solidExcept c)).Matches (before ++ [d]) (e :: rest) after :=
        ih (by simp) fun x hx => h x (List.mem_cons_of_mem _ hx)
      exact .more (.solidExcept _ _ hdiff hblank) hrest

/-- A repeated class matches any characters of the class, as long as there are some. -/
theorem matches_oneOrMore_solid :
    (oneOrMore (solidExcept c)).Matches before w after ↔ w ≠ [] ∧ Solid c w :=
  ⟨solid_of_matches, fun h => matches_of_solid h.1 h.2⟩

end Matches

end Pattern

end AccountPortal.Text

namespace AccountPortal.Form.Email

open Text Text.Pattern

/-- A name, an at sign and a domain with a dot inside. -/
def IsAddress (s : List Char) : Prop :=
  ∃ name left right, s = name ++ '@' :: (left ++ '.' :: right) ∧
    (name ≠ [] ∧ left ≠ [] ∧ right ≠ []) ∧ Solid '@' name ∧ Solid '@' (left ++ '.' :: right)

theorem isPart_iff {c : Char} : isPart c = true ↔ c ≠ '@' ∧ isBlank c = false := by
  simp [isPart, and_comm]

theorem all_isPart_iff {w : List Char} : w.all isPart = true ↔ Solid '@' w := by
  simp only [List.all_eq_true, isPart_iff, Solid]

theorem hasInnerDot_iff {domain : List Char} :
    hasInnerDot domain = true ↔
      ∃ left right, domain = left ++ '.' :: right ∧ left ≠ [] ∧ right ≠ [] := by
  rw [hasInnerDot, List.contains_iff_mem]
  constructor
  · intro h
    cases domain with
    | nil => simp at h
    | cons c rest =>
      have hrest : rest ≠ [] := by
        rintro rfl
        simp at h
      obtain ⟨left, right, hsplit⟩ := List.append_of_mem h
      refine ⟨c :: left, right ++ [rest.getLast hrest], ?_, by simp, by simp⟩
      calc
        c :: rest = c :: (rest.dropLast ++ [rest.getLast hrest]) := by
          rw [List.dropLast_concat_getLast hrest]
        _ = c :: left ++ '.' :: (right ++ [rest.getLast hrest]) := by
          rw [List.tail_cons] at hsplit
          rw [hsplit, List.append_assoc, List.cons_append, List.cons_append]
  · rintro ⟨left, right, rfl, hleft, hright⟩
    obtain ⟨c, left, rfl⟩ := List.exists_cons_of_ne_nil hleft
    have hlast : ('.' :: right).dropLast = '.' :: right.dropLast := by
      rw [List.dropLast_cons_of_ne_nil hright]
    rw [List.cons_append, List.tail_cons, List.dropLast_append_of_ne_nil (by simp), hlast]
    simp

theorem isValid_iff_isAddress {s : String} : isValid s = true ↔ IsAddress s.toList := by
  constructor
  · intro h
    unfold isValid at h
    split at h
    · contradiction
    · rename_i name domain hcut
      simp only [Bool.and_eq_true, all_isPart_iff, hasInnerDot_iff] at h
      obtain ⟨⟨⟨hname, hsolid⟩, hdomain⟩, left, right, rfl, hleft, hright⟩ := h
      have hsplit := (cut?_eq_some hsolid.not_mem).mp hcut
      exact ⟨name, left, right, hsplit, ⟨by simpa using hname, hleft, hright⟩, hsolid, hdomain⟩
  · rintro ⟨name, left, right, hsplit, ⟨hname, hleft, hright⟩, hsolid, hdomain⟩
    have hcut := (cut?_eq_some hsolid.not_mem).mpr hsplit
    have hdot : hasInnerDot (left ++ '.' :: right) = true :=
      hasInnerDot_iff.mpr ⟨left, right, rfl, hleft, hright⟩
    rw [isValid, hcut]
    simp [hname, all_isPart_iff.mpr hsolid, all_isPart_iff.mpr hdomain, hdot]

def partPattern : Pattern := .oneOrMore (.solidExcept '@')

def pattern : Pattern :=
  .next .start (.next partPattern (.next (.letter '@')
    (.next partPattern (.next (.letter '.') (.next partPattern .stop)))))

/-- The pattern is found in the addresses and nowhere else: its two ends leave it no
choice but the whole text, and any inner dot of the domain may be its dot. -/
theorem foundIn_iff_isAddress {text : List Char} : pattern.FoundIn text ↔ IsAddress text := by
  constructor
  · rintro ⟨before, w, after, rfl, h⟩
    simp only [pattern, partPattern, matches_next, matches_start, matches_stop, matches_letter,
      matches_oneOrMore_solid] at h
    obtain ⟨_, _, rfl, ⟨rfl, rfl⟩, name, _, rfl, ⟨hname, hsolid⟩, _, _, rfl, rfl, left, _, rfl,
      ⟨hleft, hsolid'⟩, _, _, rfl, rfl, right, _, rfl, ⟨hright, hsolid''⟩, rfl, rfl⟩ := h
    refine ⟨name, left, right, by simp, ⟨hname, hleft, hright⟩, hsolid, ?_⟩
    have hdot : Solid '@' ['.'] := by simp [Solid, isBlank]
    exact solid_append.mpr ⟨hsolid', solid_append.mpr ⟨hdot, hsolid''⟩⟩
  · rintro ⟨name, left, right, rfl, ⟨hname, hleft, hright⟩, hsolid, hdomain⟩
    obtain ⟨hsolid', hrest⟩ := solid_append.mp hdomain
    have hsolid'' : Solid '@' right := fun c hc => hrest c (List.mem_cons_of_mem _ hc)
    refine ⟨[], _, [], by rw [List.append_nil, List.nil_append], ?_⟩
    refine matches_next.mpr ⟨[], _, rfl, matches_start.mpr ⟨rfl, rfl⟩, ?_⟩
    refine matches_next.mpr ⟨name, _, rfl, matches_of_solid hname hsolid, ?_⟩
    refine matches_next.mpr ⟨['@'], _, rfl, matches_letter.mpr rfl, ?_⟩
    refine matches_next.mpr ⟨left, _, rfl, matches_of_solid hleft hsolid', ?_⟩
    refine matches_next.mpr ⟨['.'], _, rfl, matches_letter.mpr rfl, ?_⟩
    exact matches_next.mpr ⟨right, [], (List.append_nil right).symm,
      matches_of_solid hright hsolid'', matches_stop.mpr ⟨rfl, rfl⟩⟩

/-- One at sign and no white space, something before the at sign, and behind it a dot
that is neither the first nor the last character. -/
structure WellFormed (s : String) : Prop where
  oneAt : s.toList.count '@' = 1
  noBlank : ∀ c ∈ s.toList, isBlank c = false
  sides : ∃ name left right, s.toList = name ++ '@' :: (left ++ '.' :: right) ∧
    name ≠ [] ∧ left ≠ [] ∧ right ≠ []

theorem wellFormed_iff_isAddress {s : String} : WellFormed s ↔ IsAddress s.toList := by
  constructor
  · rintro ⟨hone, hblank, name, left, right, hsplit, hsides⟩
    have hcount : name.count '@' = 0 ∧ (left ++ '.' :: right).count '@' = 0 := by
      rw [hsplit, List.count_append, List.count_cons_self] at hone
      omega
    have hsolid {w : List Char} (hw : ∀ c ∈ w, c ∈ s.toList) (hnone : w.count '@' = 0) :
        Solid '@' w := by
      intro c hc
      refine ⟨?_, hblank c (hw c hc)⟩
      rintro rfl
      exact List.count_eq_zero.mp hnone hc
    refine ⟨name, left, right, hsplit, hsides, hsolid ?_ hcount.1, hsolid ?_ hcount.2⟩
    · intro c hc
      rw [hsplit]
      exact List.mem_append_left _ hc
    · intro c hc
      rw [hsplit]
      exact List.mem_append_right _ (List.mem_cons_of_mem _ hc)
  · rintro ⟨name, left, right, hsplit, hsides, hsolid, hdomain⟩
    refine ⟨?_, ?_, name, left, right, hsplit, hsides⟩
    · rw [hsplit, List.count_append, List.count_cons_self,
        List.count_eq_zero.mpr hsolid.not_mem, List.count_eq_zero.mpr hdomain.not_mem]
    · rw [hsplit]
      intro c hc
      rcases List.mem_append.mp hc with hc | hc
      · exact (hsolid c hc).2
      · rcases List.mem_cons.mp hc with rfl | hc
        · rfl
        · exact (hdomain c hc).2

theorem WellFormed.trim_eq {s : String} (h : WellFormed s) : trim s = s :=
  trim_of_no_blank h.noBlank

/-- Three ways to say what an address is: the check, its form, and the pattern, which
is the usual one. An address has no white space to be trimmed. -/
theorem isValid_iff_pattern :
    pattern.source = "^[^\\s@]+@[^\\s@]+\\.[^\\s@]+$" ∧
    ∀ s : String, (isValid s = true ↔ WellFormed s) ∧
      (isValid s = true ↔ pattern.FoundIn s.toList) ∧ (isValid s = true → trim s = s) := by
  refine ⟨by decide +kernel, fun s => ⟨?_, ?_, fun h => ?_⟩⟩
  · rw [isValid_iff_isAddress, wellFormed_iff_isAddress]
  · rw [isValid_iff_isAddress, foundIn_iff_isAddress]
  · exact (wellFormed_iff_isAddress.mpr (isValid_iff_isAddress.mp h)).trim_eq

end AccountPortal.Form.Email
