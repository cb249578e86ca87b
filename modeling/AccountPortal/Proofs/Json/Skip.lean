import AccountPortal.Json.Skip
import AccountPortal.Proofs.Json.Literal

/-!
Stepping over a literal leaves what follows it, whatever its depth and however
many digits its integers have. Each character of the text pays for the steps
that it takes.
-/
namespace AccountPortal.Json

open Literal

/-- A literal is stepped over in as many steps as its text pays for. -/
def Skippable (l : Literal) : Prop :=
  ∀ steps rest, EndsNumber rest → 2 * l.text.length ≤ steps →
    skipValueIn steps (l.text ++ rest) = .ok ((), rest)

/-- There is always a first step to take. -/
theorem Skippable.of_succ {l : Literal}
    (h : ∀ steps rest, EndsNumber rest → 2 * l.text.length ≤ steps + 1 →
      skipValueIn (steps + 1) (l.text ++ rest) = .ok ((), rest)) : Skippable l := by
  intro steps rest hend hsteps
  have hpos := l.text_length_pos
  obtain ⟨n, rfl⟩ : ∃ n, steps = n + 1 := ⟨steps - 1, by omega⟩
  exact h n rest hend hsteps

theorem skipValueIn_digit {c : Char} (hc : isDigit c = true) (steps : Nat) (s : List Char) :
    skipValueIn (steps + 1) (c :: s) = skipNumber (c :: s) := by
  have hne (d : Char) (hd : isDigit d = false) : c ≠ d := ne_of_isDigit hc hd
  simp [skipValueIn, skipBlanks_opens (Or.inl hc), hc, hne 'n' rfl, hne 't' rfl, hne 'f' rfl,
    hne '-' rfl, hne '"' rfl, hne '[' rfl, hne '\x7b' rfl]

theorem skipValueIn_integer (negative : Bool) (n steps : Nat) {rest : List Char}
    (hend : EndsNumber rest) :
    skipValueIn (steps + 1) ((Literal.integer negative n).text ++ rest) = .ok ((), rest) := by
  cases negative with
  | true => simp [text, skipValueIn, skipBlanks, skipNumber_digits hend]
  | false =>
    obtain ⟨c, ds, heq, hdigit, _⟩ := exists_digits_eq_cons n
    have hskip := skipNumber_digits (n := n) hend
    rw [heq, List.cons_append] at hskip
    simp [text, heq, skipValueIn_digit (hdigit c List.mem_cons_self), hskip]

theorem skipItemsIn_text (rest : List Char) (l : Literal) (items : List Literal)
    (h : ∀ k ∈ l :: items, Skippable k) (steps : Nat)
    (hsteps : 2 * (itemsText (l :: items)).length < steps) :
    skipItemsIn steps (itemsText (l :: items) ++ ']' :: rest) = .ok ((), rest) := by
  induction items generalizing l steps with
  | nil =>
    obtain ⟨n, rfl⟩ : ∃ n, steps = n + 1 := ⟨steps - 1, by omega⟩
    have hl : Skippable l := h l List.mem_cons_self
    rw [itemsText, moreItemsText, List.append_nil] at hsteps ⊢
    have hskip := hl n (']' :: rest) (endsNumber_cons (by decide)) (by omega)
    simp [skipItemsIn, hskip, skipBlanks]
  | cons k items ih =>
    obtain ⟨n, rfl⟩ : ∃ n, steps = n + 1 := ⟨steps - 1, by omega⟩
    have hl : Skippable l := h l List.mem_cons_self
    rw [itemsText, moreItemsText_cons] at hsteps ⊢
    simp only [List.length_append, List.length_cons] at hsteps
    have hskip := hl n (',' :: (itemsText (k :: items) ++ ']' :: rest))
      (endsNumber_cons (by decide)) (by omega)
    have hrest := ih k (fun j hj => h j (List.mem_cons_of_mem _ hj)) n (by omega)
    simp [skipItemsIn, hskip, skipBlanks, hrest]

theorem skipMembersIn_text (rest : List Char) (m : String × Literal)
    (members : List (String × Literal)) (h : ∀ x ∈ m :: members, Skippable x.2) (steps : Nat)
    (hsteps : 2 * (membersText (m :: members)).length < steps) :
    skipMembersIn steps (membersText (m :: members) ++ '\x7d' :: rest) = .ok ((), rest) := by
  induction members generalizing m steps with
  | nil =>
    obtain ⟨n, rfl⟩ : ∃ n, steps = n + 1 := ⟨steps - 1, by omega⟩
    obtain ⟨key, l⟩ := m
    have hl : Skippable l := h (key, l) List.mem_cons_self
    rw [membersText, moreMembersText, List.append_nil] at hsteps ⊢
    simp only [List.length_cons, List.length_append] at hsteps
    have hskip := hl n ('\x7d' :: rest) (endsNumber_cons (by decide)) (by omega)
    simp [skipMembersIn, skipBlanks, skipString_write, hskip]
  | cons x members ih =>
    obtain ⟨n, rfl⟩ : ∃ n, steps = n + 1 := ⟨steps - 1, by omega⟩
    obtain ⟨key, l⟩ := m
    have hl : Skippable l := h (key, l) List.mem_cons_self
    rw [membersText, moreMembersText_cons] at hsteps ⊢
    simp only [List.length_cons, List.length_append] at hsteps
    have hskip := hl n (',' :: (membersText (x :: members) ++ '\x7d' :: rest))
      (endsNumber_cons (by decide)) (by omega)
    have hrest := ih x (fun y hy => h y (List.mem_cons_of_mem _ hy)) n (by omega)
    simp [skipMembersIn, skipBlanks, skipString_write, hskip, hrest]

theorem skipValueIn_array {c : Char} (hc : Opens c) (steps : Nat) (s : List Char) :
    skipValueIn (steps + 1) ('[' :: c :: s) = skipItemsIn steps (c :: s) := by
  have hopen : skipBlanks ('[' :: c :: s) = '[' :: c :: s := by simp [skipBlanks]
  simp [skipValueIn, hopen, skipBlanks_opens hc, hc.ne ']']

theorem skippable (l : Literal) : Skippable l := by
  induction l using Literal.induct with
  | null =>
    apply Skippable.of_succ
    intro n rest _ _
    simp [text, skipValueIn, skipBlanks, readNull, readWord]
  | bool b =>
    apply Skippable.of_succ
    intro n rest _ _
    cases b with
    | true => simp [text, skipValueIn, skipBlanks, readTrue, readWord]
    | false => simp [text, skipValueIn, skipBlanks, readFalse, readWord]
  | integer negative i =>
    apply Skippable.of_succ
    intro n rest hend _
    exact skipValueIn_integer negative i n hend
  | string s =>
    apply Skippable.of_succ
    intro n rest _ _
    simp [text, writeString, skipValueIn, skipBlanks, skipString_write]
  | array items ih =>
    apply Skippable.of_succ
    intro n rest _ hsteps
    cases items with
    | nil => simp [text, itemsText, skipValueIn, skipBlanks]
    | cons l items =>
      obtain ⟨c, s, heq, hc⟩ := exists_itemsText_eq_cons l items
      have hskip := skipItemsIn_text rest l items ih n (by
        simp only [text, List.length_cons, List.length_append] at hsteps
        omega)
      rw [heq, List.cons_append] at hskip
      simp [text, heq, skipValueIn_array hc, hskip]
  | object members ih =>
    apply Skippable.of_succ
    intro n rest _ hsteps
    cases members with
    | nil => simp [text, membersText, skipValueIn, skipBlanks]
    | cons m members =>
      have hskip := skipMembersIn_text rest m members ih n (by
        simp only [text, List.length_cons, List.length_append] at hsteps
        omega)
      obtain ⟨key, l⟩ := m
      rw [membersText, List.cons_append] at hskip
      simp only [text, membersText, List.cons_append, List.append_assoc,
        List.nil_append] at hskip ⊢
      simp [skipValueIn, skipBlanks, hskip]

/-- Of a literal nothing is left. -/
theorem skipValue_text (l : Literal) {rest : List Char} (hend : EndsNumber rest) :
    skipValue (l.text ++ rest) = .ok ((), rest) := by
  apply skippable l _ _ hend
  simp only [stepBound, List.length_append]
  omega

end AccountPortal.Json
