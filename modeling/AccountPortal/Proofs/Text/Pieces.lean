import AccountPortal.Text.Blank
import AccountPortal.Text.Pieces
import Mathlib.Data.List.DropRight
import Mathlib.Data.List.TakeWhile

/-!
Trimming a text and cutting it at a separator. Blanks around a text do not matter to
its trimmed form, and a text is cut where its parts were joined.
-/
namespace AccountPortal.Text

attribute [local simp] dropTailWhile pieces cut?

section DropTail

variable {α : Type} {p : α → Bool}

theorem dropTailWhile_of_all {s : List α} (h : s.all p = true) : dropTailWhile p s = [] := by
  induction s with
  | nil => rfl
  | cons a rest ih =>
    rw [List.all_cons, Bool.and_eq_true] at h
    simp [ih h.2, h.1]

theorem dropTailWhile_append_of_all (s : List α) {tail : List α} (h : tail.all p = true) :
    dropTailWhile p (s ++ tail) = dropTailWhile p s := by
  induction s with
  | nil => exact dropTailWhile_of_all h
  | cons a rest ih => simp [ih]

theorem dropTailWhile_idem (s : List α) :
    dropTailWhile p (dropTailWhile p s) = dropTailWhile p s := by
  induction s with
  | nil => rfl
  | cons a rest ih =>
    cases hrest : dropTailWhile p rest with
    | nil =>
      by_cases ha : p a = true
      · simp [hrest, ha]
      · simp [hrest, ha]
    | cons b kept =>
      have hkept : dropTailWhile p (a :: rest) = a :: b :: kept := by
        rw [dropTailWhile, hrest]
      rw [hrest] at ih
      rw [hkept, dropTailWhile, ih]

/-- A tail that is kept as it is protects what stands before it. -/
theorem dropTailWhile_append_of_kept (s : List α) {tail : List α} (hne : tail ≠ [])
    (h : dropTailWhile p tail = tail) : dropTailWhile p (s ++ tail) = s ++ tail := by
  induction s with
  | nil => exact h
  | cons a rest ih =>
    rw [List.cons_append, dropTailWhile, ih]
    split
    · rename_i hnil
      exact absurd (List.append_eq_nil_iff.mp hnil).2 hne
    · rfl

theorem dropTailWhile_of_none {s : List α} (h : ∀ a ∈ s, p a = false) :
    dropTailWhile p s = s := by
  induction s with
  | nil => rfl
  | cons a rest ih =>
    rw [dropTailWhile, ih fun b hb => h b (List.mem_cons_of_mem _ hb)]
    cases rest with
    | nil => simp [h a List.mem_cons_self]
    | cons b rest => rfl

theorem dropTailWhile_eq_rdropWhile (s : List α) : dropTailWhile p s = s.rdropWhile p := by
  induction s using List.reverseRecOn with
  | nil => rfl
  | append_singleton s a ih =>
    cases ha : p a with
    | true =>
      rw [dropTailWhile_append_of_all s (by simp [ha]), ih, List.rdropWhile_concat_pos p s a ha]
    | false =>
      rw [dropTailWhile_append_of_kept s (by simp) (by simp [ha]),
        List.rdropWhile_concat_neg p s a (by simp [ha])]

theorem prefix_dropTailWhile (s : List α) : dropTailWhile p s <+: s := by
  rw [dropTailWhile_eq_rdropWhile]
  exact List.rdropWhile_prefix p s

theorem getLast?_dropTailWhile (s : List α) : ∀ a ∈ (dropTailWhile p s).getLast?, p a = false := by
  intro a ha
  rw [dropTailWhile_eq_rdropWhile] at ha
  obtain ⟨hne, rfl⟩ := List.mem_getLast?_eq_getLast ha
  simpa using List.rdropWhile_last_not p s hne

/-- A list that does not end in an element to drop is kept as it is. -/
theorem dropTailWhile_of_getLast? {s : List α} (h : ∀ a ∈ s.getLast?, p a = false) :
    dropTailWhile p s = s := by
  rw [dropTailWhile_eq_rdropWhile, List.rdropWhile_eq_self_iff]
  intro hne
  simp [h _ (List.getLast?_eq_getLast_of_ne_nil hne)]

end DropTail

/-- A trimmed text does not begin with a blank. -/
theorem head?_trimChars (s : List Char) : ∀ c ∈ (trimChars s).head?, isBlank c = false := by
  intro c hc
  obtain ⟨tail, htail⟩ : trimChars s <+: s.dropWhile isBlank := prefix_dropTailWhile _
  have hkept : (s.dropWhile isBlank).head? = some c := by
    rw [← htail, List.head?_append, Option.mem_def.mp hc]
    rfl
  have hnot := List.head?_dropWhile_not isBlank s
  rwa [hkept] at hnot

/-- A trimmed text does not end with a blank. -/
theorem getLast?_trimChars (s : List Char) : ∀ c ∈ (trimChars s).getLast?, isBlank c = false :=
  getLast?_dropTailWhile _

/-- Nothing is trimmed from a text that neither begins nor ends with a blank. -/
theorem trimChars_of_ends {s : List Char} (hhead : ∀ c ∈ s.head?, isBlank c = false)
    (hlast : ∀ c ∈ s.getLast?, isBlank c = false) : trimChars s = s := by
  have hkept : s.dropWhile isBlank = s := by
    cases s with
    | nil => rfl
    | cons c rest => rw [List.dropWhile_cons_of_neg (by simp [hhead c rfl])]
  rw [trimChars, hkept, dropTailWhile_of_getLast? hlast]

theorem mem_of_mem_trimChars {s : List Char} {c : Char} (h : c ∈ trimChars s) : c ∈ s :=
  (List.dropWhile_sublist isBlank).mem ((prefix_dropTailWhile _).mem h)

/-- Trimming takes nothing but blanks off the two ends. -/
theorem exists_ends_trimChars (s : List Char) :
    ∃ before after : List Char, before.all isBlank = true ∧ after.all isBlank = true ∧
      s = before ++ trimChars s ++ after := by
  have htail : trimChars s ++ (s.dropWhile isBlank).rtakeWhile isBlank = s.dropWhile isBlank := by
    rw [trimChars, dropTailWhile_eq_rdropWhile, List.rdropWhile_append_rtakeWhile]
  refine ⟨s.takeWhile isBlank, (s.dropWhile isBlank).rtakeWhile isBlank, ?_, ?_, ?_⟩
  · exact List.all_takeWhile
  · exact List.all_eq_true.mpr fun c hc => List.mem_rtakeWhile_imp hc
  · rw [List.append_assoc, htail, List.takeWhile_append_dropWhile]

theorem trimChars_append_left {before : List Char} (h : before.all isBlank = true)
    (s : List Char) : trimChars (before ++ s) = trimChars s := by
  rw [trimChars, trimChars, List.dropWhile_append_of_pos]
  exact fun c hc => List.all_eq_true.mp h c hc

theorem trimChars_append_right (s : List Char) {after : List Char}
    (h : after.all isBlank = true) : trimChars (s ++ after) = trimChars s := by
  rw [trimChars, trimChars, List.dropWhile_append]
  split
  · rename_i hblank
    rw [List.isEmpty_iff.mp hblank]
    have hnone : after.dropWhile isBlank = [] := by
      rw [List.dropWhile_eq_nil_iff]
      exact fun c hc => List.all_eq_true.mp h c hc
    rw [hnone]
  · exact dropTailWhile_append_of_all _ h

/-- What is trimmed already protects what stands before it, if that begins with a
character that is not blank. -/
theorem trimChars_cons_append {first : Char} (hfirst : isBlank first = false)
    (s : List Char) {tail : List Char} (hne : tail ≠ []) (h : trimChars tail = tail) :
    trimChars (first :: s ++ tail) = first :: s ++ tail := by
  have hkept : dropTailWhile isBlank tail = tail := by
    rw [← h, trimChars, dropTailWhile_idem]
  have hhead : (first :: s ++ tail).dropWhile isBlank = first :: s ++ tail := by
    simp [hfirst]
  rw [trimChars, hhead]
  exact dropTailWhile_append_of_kept (first :: s) hne hkept

theorem trimChars_eq_self {s : String} (h : trim s = s) : trimChars s.toList = s.toList := by
  have hchars := congrArg String.toList h
  rwa [trim, String.toList_ofList] at hchars

theorem trimChars_idem (s : List Char) : trimChars (trimChars s) = trimChars s :=
  trimChars_of_ends (head?_trimChars s) (getLast?_trimChars s)

theorem trim_idem (s : String) : trim (trim s) = trim s := by
  rw [trim, trim, String.toList_ofList, trimChars_idem]

/-- The second text is the first one with blanks around it. -/
def Padded (s t : String) : Prop :=
  ∃ before after : List Char, before.all isBlank = true ∧ after.all isBlank = true ∧
    t = String.ofList (before ++ s.toList ++ after)

theorem Padded.trim_eq {s t : String} (h : Padded s t) : trim t = trim s := by
  obtain ⟨before, after, hbefore, hafter, rfl⟩ := h
  rw [trim, trim, String.toList_ofList, trimChars_append_right _ hafter,
    trimChars_append_left hbefore]

/-- Nothing is trimmed from a text without blanks. -/
theorem trim_of_no_blank {s : String} (h : ∀ c ∈ s.toList, isBlank c = false) : trim s = s := by
  have hhead : s.toList.dropWhile isBlank = s.toList := by
    cases hs : s.toList with
    | nil => rfl
    | cons c rest =>
      have hc : isBlank c = false := h c (hs ▸ List.mem_cons_self)
      rw [List.dropWhile_cons, hc, if_neg Bool.false_ne_true]
  rw [trim, trimChars, hhead, dropTailWhile_of_none h, String.ofList_toList]

theorem pieces_ne_nil (sep : Char) (s : List Char) : pieces sep s ≠ [] := by
  cases s with
  | nil => simp
  | cons c rest =>
    rw [pieces]
    split
    · simp
    · split <;> simp

theorem pieces_eq_splitOn (sep : Char) (s : List Char) : pieces sep s = s.splitOn sep := by
  induction s with
  | nil => rfl
  | cons c rest ih =>
    rw [pieces, List.splitOn_eq_splitOnP, List.splitOnP_cons_eq_if_modifyHead,
      ← List.splitOn_eq_splitOnP, ← ih]
    by_cases hc : c = sep
    · simp [hc]
    · cases hrest : pieces sep rest with
      | nil => exact absurd hrest (pieces_ne_nil sep rest)
      | cons p ps => simp [hc, List.modifyHead]

/-- A name without the separator is cut off exactly where it is followed by it. -/
theorem cut?_eq_some {sep : Char} {before : List Char} (hsep : sep ∉ before)
    {s after : List Char} : cut? sep s = some (before, after) ↔ s = before ++ sep :: after := by
  induction s generalizing before with
  | nil => simp
  | cons c rest ih =>
    rw [cut?]
    cases before with
    | nil =>
      by_cases hc : c = sep
      · simp [hc]
      · simp [hc]
    | cons b before =>
      rw [List.mem_cons, not_or] at hsep
      by_cases hc : c = sep
      · simp [hc, hsep.1]
      · rw [if_neg hc, Option.map_eq_some_iff, List.cons_append, List.cons.injEq]
        constructor
        · rintro ⟨⟨before', after'⟩, hcut, heq⟩
          obtain ⟨⟨rfl, rfl⟩, rfl⟩ : (c = b ∧ before' = before) ∧ after' = after := by
            simpa using heq
          exact ⟨rfl, (ih hsep.2).mp hcut⟩
        · rintro ⟨rfl, hrest⟩
          exact ⟨(before, after), (ih hsep.2).mpr hrest, rfl⟩

/-- A text is cut off before the first separator. -/
theorem not_mem_of_cut? {sep : Char} {s before after : List Char}
    (h : cut? sep s = some (before, after)) : sep ∉ before := by
  induction s generalizing before with
  | nil => cases h
  | cons c rest ih =>
    rw [cut?] at h
    split at h
    · cases h
      exact List.not_mem_nil
    · rename_i hc
      obtain ⟨⟨before', after'⟩, hcut, heq⟩ := Option.map_eq_some_iff.mp h
      obtain ⟨rfl, rfl⟩ : c :: before' = before ∧ after' = after := by simpa using heq
      have hbefore := ih hcut
      simp [Ne.symm hc, hbefore]

theorem takeWhile_ne_eq_iff {sep : Char} {s before : List Char} :
    (sep ∈ s ∧ s.takeWhile (· ≠ sep) = before) ↔
      sep ∉ before ∧ ∃ after, s = before ++ sep :: after := by
  have htake (front after : List Char) (hfront : sep ∉ front) :
      (front ++ sep :: after).takeWhile (· ≠ sep) = front := by
    rw [List.takeWhile_append_of_pos]
    · simp
    · intro c hc
      simpa using ne_of_mem_of_not_mem hc hfront
  constructor
  · rintro ⟨hmem, rfl⟩
    obtain ⟨front, after, rfl, hfront⟩ := List.eq_append_cons_of_mem hmem
    rw [htake front after hfront]
    exact ⟨hfront, after, rfl⟩
  · rintro ⟨hbefore, after, rfl⟩
    exact ⟨by simp, htake before after hbefore⟩

theorem pieces_append (sep : Char) (s t : List Char) :
    pieces sep (s ++ sep :: t) = pieces sep s ++ pieces sep t := by
  induction s with
  | nil => simp
  | cons c rest ih =>
    by_cases hc : c = sep
    · simp [hc, ih]
    · simp only [List.cons_append, pieces, if_neg hc, ih]
      cases hrest : pieces sep rest with
      | nil => exact absurd hrest (pieces_ne_nil sep rest)
      | cons p ps => rfl

theorem pieces_of_not_mem {sep : Char} {s : List Char} (h : sep ∉ s) : pieces sep s = [s] := by
  induction s with
  | nil => rfl
  | cons c rest ih =>
    rw [List.mem_cons, not_or] at h
    rw [pieces, if_neg (Ne.symm h.1), ih h.2]

theorem not_mem_of_mem_pieces {sep : Char} {s piece : List Char} (h : piece ∈ pieces sep s) :
    sep ∉ piece := by
  induction s generalizing piece with
  | nil => simp_all [pieces]
  | cons c rest ih =>
    rw [pieces] at h
    split at h
    · rcases List.mem_cons.mp h with rfl | hrest
      · exact List.not_mem_nil
      · exact ih hrest
    · rename_i hc
      split at h
      · rename_i hnil
        exact absurd hnil (pieces_ne_nil sep rest)
      · rename_i p ps hrest
        rw [hrest] at ih
        rcases List.mem_cons.mp h with rfl | hps
        · simp [Ne.symm hc, ih List.mem_cons_self]
        · exact ih (List.mem_cons_of_mem _ hps)

theorem isInfix_intercalate (sep : List Char) {parts : List (List Char)} {part : List Char}
    (h : part ∈ parts) : part <:+: sep.intercalate parts := by
  induction parts with
  | nil => cases h
  | cons first rest ih =>
    cases rest with
    | nil =>
      obtain rfl : part = first := List.mem_singleton.mp h
      exact ⟨[], [], by simp⟩
    | cons second rest =>
      rw [List.intercalate_cons_cons]
      rcases List.mem_cons.mp h with rfl | hrest
      · rw [List.append_assoc]
        exact (List.prefix_append _ _).isInfix
      · exact List.infix_append_of_infix_right (ih hrest)

theorem isInfix_of_mem_pieces {sep : Char} {s piece : List Char} (h : piece ∈ pieces sep s) :
    piece <:+: s := by
  have hjoined : [sep].intercalate (pieces sep s) = s := by
    rw [pieces_eq_splitOn, List.intercalate_splitOn]
  rw [← hjoined]
  exact isInfix_intercalate [sep] h

end AccountPortal.Text
