import AccountPortal.Json.Scalar
import AccountPortal.Json.Writer

/-!
Written strings and integers, with any text after them, are read back, and
stepping over them leaves that text. An integer has no end of its own: what
follows it must not go on with a digit, a point or an exponent. One that does
not fit 64 bits is rounded or refused.
-/
namespace AccountPortal.Json

open Decimal

theorem hexDigit?_hexChar : ∀ n < 16, Text.hexDigit? (hexChar n) = some n := by decide

theorem hexUnit?_hexChar {n : Nat} (h : n < 32) :
    hexUnit? '0' '0' (hexChar (n / 16)) (hexChar (n % 16)) = some n := by
  have hzero : Text.hexDigit? '0' = some 0 := by decide
  have hhigh := hexDigit?_hexChar (n / 16) (by omega)
  have hlow := hexDigit?_hexChar (n % 16) (by omega)
  simp only [hexUnit?, hzero, hhigh, hlow, Option.bind_eq_bind, Option.bind_some, Option.pure_def]
  congr 1
  omega

/-- A character is written with a short escape, as a code point or as it is. -/
theorem writeChar_cases (c : Char) :
    (∃ e, shortEscape? e = some c ∧ writeChar c = ['\\', e]) ∨
    (c.toNat < 32 ∧
      writeChar c = ['\\', 'u', '0', '0', hexChar (c.toNat / 16), hexChar (c.toNat % 16)]) ∨
    (c ≠ '"' ∧ c ≠ '\\' ∧ ¬ c < ' ' ∧ writeChar c = [c]) := by
  unfold writeChar
  split
  · subst c; exact Or.inl ⟨'"', by decide, rfl⟩
  split
  · subst c; exact Or.inl ⟨'\\', by decide, rfl⟩
  split
  · subst c; exact Or.inl ⟨'b', by decide, rfl⟩
  split
  · subst c; exact Or.inl ⟨'f', by decide, rfl⟩
  split
  · subst c; exact Or.inl ⟨'n', by decide, rfl⟩
  split
  · subst c; exact Or.inl ⟨'r', by decide, rfl⟩
  split
  · subst c; exact Or.inl ⟨'t', by decide, rfl⟩
  split
  · rename_i hcontrol
    exact Or.inr (Or.inl ⟨hcontrol, rfl⟩)
  · rename_i hquote hslash _ _ _ _ _ hcontrol
    exact Or.inr (Or.inr ⟨hquote, hslash, hcontrol, rfl⟩)

theorem ne_u_of_shortEscape? {e c : Char} (h : shortEscape? e = some c) : e ≠ 'u' := by
  rintro rfl
  have hnone : shortEscape? 'u' = none := by decide
  rw [hnone] at h
  contradiction

theorem readString_writeChar (c : Char) (tail : List Char) :
    readString (writeChar c ++ tail) = pushChar c (readString tail) := by
  rcases writeChar_cases c with ⟨e, he, hw⟩ | ⟨hlt, hw⟩ | ⟨_, hslash, hcontrol, hw⟩
  · simp [hw, readString, he, ne_u_of_shortEscape? he]
  · have hlow : isLowSurrogate c.toNat = false := by simp [isLowSurrogate]; omega
    have hhigh : isHighSurrogate c.toNat = false := by simp [isHighSurrogate]; omega
    simp [hw, readString, hexUnit?_hexChar hlt, hlow, hhigh]
  · simp [hw, readString, hslash, hcontrol]

theorem skipString_writeChar (c : Char) (tail : List Char) :
    skipString (writeChar c ++ tail) = skipString tail := by
  rcases writeChar_cases c with ⟨e, he, hw⟩ | ⟨hlt, hw⟩ | ⟨_, hslash, hcontrol, hw⟩
  · simp [hw, skipString, he, ne_u_of_shortEscape? he]
  · simp [hw, skipString, hexUnit?_hexChar hlt]
  · simp [hw, skipString, hslash, hcontrol]

theorem readString_write (s rest : List Char) :
    readString (s.flatMap writeChar ++ '"' :: rest) = .ok (s, rest) := by
  induction s with
  | nil => simp [readString]
  | cons c s ih =>
    rw [List.flatMap_cons, List.append_assoc, readString_writeChar, ih]
    rfl

theorem skipString_write (s rest : List Char) :
    skipString (s.flatMap writeChar ++ '"' :: rest) = .ok ((), rest) := by
  induction s with
  | nil => simp [skipString]
  | cons c s ih => rw [List.flatMap_cons, List.append_assoc, skipString_writeChar, ih]

/-- What may follow the digits of an integer: no further part of a number. -/
def EndsNumber (rest : List Char) : Prop :=
  ∀ c ∈ rest.head?, isDigit c = false ∧ c ≠ '.' ∧ c ≠ 'e' ∧ c ≠ 'E'

theorem endsNumber_nil : EndsNumber [] := by simp [EndsNumber]

theorem endsNumber_cons {c : Char} {rest : List Char}
    (h : isDigit c = false ∧ c ≠ '.' ∧ c ≠ 'e' ∧ c ≠ 'E') : EndsNumber (c :: rest) := by
  simpa [EndsNumber] using h

theorem startsWithDigit_of_endsNumber {rest : List Char} (hend : EndsNumber rest) :
    startsWithDigit rest = false := by
  cases rest with
  | nil => rfl
  | cons c rest => exact (hend c rfl).1

/-- Behind a zero that stands alone no digit follows. -/
theorem no_leading_zero {c : Char} {ds rest : List Char} (hzero : c = '0' → ds = [])
    (hend : EndsNumber rest) : ¬ (c = '0' ∧ startsWithDigit (ds ++ rest) = true) := by
  rintro ⟨h0, hstart⟩
  rw [hzero h0, List.nil_append, startsWithDigit_of_endsNumber hend] at hstart
  exact Bool.false_ne_true hstart

/-- Only zero is written with a leading zero. -/
theorem exists_head_digits (n : Nat) : ∃ c ds, digits n = c :: ds ∧ (c = '0' → n = 0) := by
  induction n using Nat.strongRecOn with
  | _ n ih =>
    by_cases hn : n < 10
    · exact ⟨n.digitChar, [], Nat.toDigits_of_lt_base hn, Nat.digitChar_eq_zero.mp⟩
    · obtain ⟨c, ds, heq, hzero⟩ := ih (n / 10) (by omega)
      have hsplit : digits n = digits (n / 10) ++ [(n % 10).digitChar] :=
        Nat.toDigits_of_base_le (by decide) (by omega)
      refine ⟨c, ds ++ [(n % 10).digitChar], ?_, fun hc => ?_⟩
      · rw [hsplit, heq, List.cons_append]
      · have := hzero hc
        omega

/-- A number is written as a first digit and further ones, which are worth the
number together; after a first zero there are none. -/
theorem exists_digits_eq_cons (n : Nat) :
    ∃ c ds, digits n = c :: ds ∧ (∀ d ∈ c :: ds, isDigit d = true) ∧ (c = '0' → ds = []) ∧
      Nat.ofDigitChars 10 ds (digitValue c) = n := by
  obtain ⟨c, ds, heq, hzero⟩ := exists_head_digits n
  refine ⟨c, ds, heq, fun d hd => ?_, fun hc => ?_, ?_⟩
  · exact Nat.isDigit_of_mem_toDigits (by decide) (by decide) (heq ▸ hd : d ∈ digits n)
  · have hnil : digits 0 = ['0'] := rfl
    rw [hzero hc, hnil] at heq
    exact (List.cons.inj heq).2.symm
  · have h : Nat.ofDigitChars 10 (digits n) 0 = n := Nat.ofDigitChars_ten_toDigits
    rwa [heq, Nat.ofDigitChars_cons, Nat.mul_zero, Nat.zero_add] at h

theorem le_ofDigitChars (ds : List Char) (start : Nat) : start ≤ Nat.ofDigitChars 10 ds start := by
  rw [Nat.ofDigitChars_eq_ofDigitChars_zero]
  have := Nat.le_mul_of_pos_left start (Nat.pow_pos (n := ds.length) (by decide : 0 < 10))
  omega

theorem ofDigitChars_digitValue (c : Char) (ds : List Char) (start : Nat) :
    Nat.ofDigitChars 10 (c :: ds) start = Nat.ofDigitChars 10 ds (start * 10 + digitValue c) := by
  rw [Nat.ofDigitChars_cons, Nat.mul_comm]
  rfl

section Digits

variable {ds rest : List Char}

theorem countDigits_append (hds : ∀ c ∈ ds, isDigit c = true) (hend : EndsNumber rest) :
    countDigits (ds ++ rest) = (ds.length, rest) := by
  induction ds with
  | nil =>
    cases rest with
    | nil => rfl
    | cons c rest => simp [countDigits, (hend c rfl).1]
  | cons c ds ih =>
    simp [countDigits, hds c, ih fun c hc => hds c (List.mem_cons_of_mem _ hc)]

/-- Digits that stay below the bound are all taken. -/
theorem takeDigits_append (start : Nat) (hds : ∀ c ∈ ds, isDigit c = true)
    (hend : EndsNumber rest) (h : Nat.ofDigitChars 10 ds start < significandBound) :
    takeDigits start (ds ++ rest) = (Nat.ofDigitChars 10 ds start, ds.length, rest) := by
  induction ds generalizing start with
  | nil =>
    cases rest with
    | nil => rfl
    | cons c rest => simp [takeDigits, (hend c rfl).1, Nat.ofDigitChars_nil]
  | cons c ds ih =>
    rw [ofDigitChars_digitValue] at h ⊢
    have hfit := Nat.lt_of_le_of_lt (le_ofDigitChars ds (start * 10 + digitValue c)) h
    simp [takeDigits, hds c, hfit, ih _ (fun c hc => hds c (List.mem_cons_of_mem _ hc)) h]

/-- Of digits that would reach the bound some are left. -/
theorem takeDigits_append_wide (rest : List Char) (start : Nat) (hds : ∀ c ∈ ds, isDigit c = true)
    (hstart : start < significandBound) (h : significandBound ≤ Nat.ofDigitChars 10 ds start) :
    ∃ m count d left, takeDigits start (ds ++ rest) = (m, count, d :: left ++ rest) ∧
      ∀ c ∈ d :: left, isDigit c = true := by
  induction ds generalizing start with
  | nil =>
    rw [Nat.ofDigitChars_nil] at h
    omega
  | cons c ds ih =>
    rw [ofDigitChars_digitValue] at h
    by_cases hfit : start * 10 + digitValue c < significandBound
    · obtain ⟨m, count, d, left, htake, hleft⟩ :=
        ih _ (fun c hc => hds c (List.mem_cons_of_mem _ hc)) hfit h
      exact ⟨m, count + 1, d, left, by simp [takeDigits, hds c, hfit, htake], hleft⟩
    · exact ⟨start, 0, c, ds, by simp [takeDigits, hfit], hds⟩

/-- The digits of an integer are taken until some are `left`, or none are. -/
theorem readNumber_of_takeDigits (negative : Bool) {c : Char} {n count : Nat} {left : List Char}
    (hc : isDigit c = true) (hzero : c = '0' → ds = []) (hend : EndsNumber rest)
    (htake : takeDigits (digitValue c) (ds ++ rest) = (n, count, left ++ rest))
    (hleft : ∀ c ∈ left, isDigit c = true) :
    readNumber negative (c :: (ds ++ rest)) =
      if left = [] then signedInteger negative n rest
      else readScaled negative n left.length rest := by
  simp only [readNumber, if_neg (no_leading_zero hzero hend), hc, if_true, htake,
    countDigits_append hleft hend]
  -- Neither a fraction nor an exponent begins.
  split
  · exact absurd rfl (hend _ rfl).2.1
  · exact absurd rfl (hend _ rfl).2.2.1
  · exact absurd rfl (hend _ rfl).2.2.2
  · simp

end Digits

section Number

variable {n : Nat} {i : Int} {rest : List Char}

theorem readNumber_digits (negative : Bool) (hn : n < significandBound) (hend : EndsNumber rest) :
    readNumber negative (digits n ++ rest) = signedInteger negative n rest := by
  obtain ⟨c, ds, heq, hdigit, hzero, hvalue⟩ := exists_digits_eq_cons n
  have htake : takeDigits (digitValue c) (ds ++ rest) = (n, ds.length, [] ++ rest) := by
    rw [takeDigits_append _ (fun d hd => hdigit d (List.mem_cons_of_mem _ hd)) hend
      (by rwa [hvalue]), hvalue, List.nil_append]
  rw [heq, List.cons_append, readNumber_of_takeDigits negative (hdigit c List.mem_cons_self)
    hzero hend htake (by simp), if_pos rfl]

theorem readNumber_digits_wide (negative : Bool) (hn : significandBound ≤ n)
    (hend : EndsNumber rest) :
    ∃ m k, readNumber negative (digits n ++ rest) = readScaled negative m k rest := by
  obtain ⟨c, ds, heq, hdigit, hzero, hvalue⟩ := exists_digits_eq_cons n
  have hstart : digitValue c < significandBound := by
    have hc := hdigit c List.mem_cons_self
    simp only [isDigit, Bool.and_eq_true, decide_eq_true_eq] at hc
    have hle : c.toNat ≤ 57 := hc.2
    have hbound : significandBound = 0x10000000000000000 := rfl
    unfold digitValue
    omega
  obtain ⟨m, count, d, left, htake, hleft⟩ := takeDigits_append_wide rest (digitValue c)
    (fun d hd => hdigit d (List.mem_cons_of_mem _ hd)) hstart (by rwa [hvalue])
  refine ⟨m, ((d :: left).length : Nat), ?_⟩
  rw [heq, List.cons_append, readNumber_of_takeDigits negative (hdigit c List.mem_cons_self)
    hzero hend htake hleft, if_neg (List.cons_ne_nil d left)]

/-- The integers that a number without fraction and exponent can hold. -/
def InWord (i : Int) : Prop := -0x8000000000000000 ≤ i ∧ i < 0x10000000000000000

theorem signedInteger_natAbs (hi : InWord i) :
    signedInteger (decide (i < 0)) i.natAbs rest = .ok (.integer i, rest) := by
  obtain ⟨hlow, hhigh⟩ := hi
  by_cases h : i < 0
  · have hrange : 0 < i.natAbs ∧ i.natAbs ≤ Nat.pow 2 63 := by
      have : Nat.pow 2 63 = 0x8000000000000000 := rfl
      omega
    have habs : -(i.natAbs : Int) = i := by omega
    rw [signedInteger, if_pos (by simpa using h), if_pos hrange, habs]
  · have habs : (i.natAbs : Int) = i := by omega
    rw [signedInteger, if_neg (by simpa using h), habs]

theorem readNumber_integer (hi : InWord i) (hend : EndsNumber rest) :
    readNumber (decide (i < 0)) (digits i.natAbs ++ rest) = .ok (.integer i, rest) := by
  have hbound : i.natAbs < significandBound := by
    have : significandBound = 0x10000000000000000 := rfl
    obtain ⟨hlow, hhigh⟩ := hi
    omega
  rw [readNumber_digits _ hbound hend, signedInteger_natAbs hi]

theorem skipNumber_digits (hend : EndsNumber rest) :
    skipNumber (digits n ++ rest) = .ok ((), rest) := by
  obtain ⟨c, ds, heq, hdigit, hzero, _⟩ := exists_digits_eq_cons n
  have hcount := countDigits_append (fun d hd => hdigit d (List.mem_cons_of_mem _ hd)) hend
  have hlead := no_leading_zero hzero hend
  have hrest : (if c = '0' then ds ++ rest else (countDigits (ds ++ rest)).2) = rest := by
    split
    · rename_i h0
      rw [hzero h0, List.nil_append]
    · rw [hcount]
  simp only [heq, List.cons_append, skipNumber, if_neg hlead, hdigit c List.mem_cons_self,
    if_true, hrest]
  split
  · exact absurd rfl (hend _ rfl).2.1
  · exact absurd rfl (hend _ rfl).2.2.1
  · exact absurd rfl (hend _ rfl).2.2.2
  · rfl

end Number

end AccountPortal.Json
