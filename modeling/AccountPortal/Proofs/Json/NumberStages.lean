import AccountPortal.Json.Skip

/-!
A number is read in stages, each of which goes on where the last one stopped: the
digits of the integer, those that are dropped, the fraction, the exponent. What is
read through all of them is stepped over too, and no further; that more digits are
dropped or an exponent is not added up makes no difference there.
-/
namespace AccountPortal.Json

open Decimal

variable {negative : Bool} {s rest : List Char} {n : Number}

theorem countDigits_of_not {s : List Char} (h : startsWithDigit s = false) :
    countDigits s = (0, s) := by
  cases s with
  | nil => rfl
  | cons c s =>
    have hc : isDigit c = false := h
    simp [countDigits, hc]

theorem countDigits_of_startsWithDigit {s : List Char} (h : startsWithDigit s = true) :
    (countDigits s).1 ≠ 0 := by
  cases s with
  | nil => contradiction
  | cons c s =>
    have hc : isDigit c = true := h
    simp [countDigits, hc]

theorem countDigits_of_takeDigits {start m count k : Nat} {left : List Char}
    (htake : takeDigits start s = (m, count, left)) (hcount : countDigits left = (k, rest)) :
    countDigits s = (count + k, rest) := by
  induction s generalizing start m count with
  | nil =>
    cases htake
    rw [hcount, Nat.zero_add]
  | cons c s ih =>
    by_cases hc : isDigit c = true ∧ start * 10 + digitValue c < significandBound
    · cases hmore : takeDigits (start * 10 + digitValue c) s with
      | mk m' more =>
        obtain ⟨rfl, rfl, rfl⟩ : m' = m ∧ more.1 + 1 = count ∧ more.2 = left := by
          simpa [takeDigits, hc, hmore] using htake
        rw [countDigits, if_pos hc.1, ih hmore]
        simp only [Nat.add_right_comm]
    · obtain ⟨rfl, rfl, rfl⟩ : start = m ∧ 0 = count ∧ c :: s = left := by
        simpa [takeDigits, hc] using htake
      rw [hcount, Nat.zero_add]

/-- No digit is left behind an exponent that could be added up. -/
theorem countDigits_of_takeExponent {start : Nat} {e : Option Nat} {left : List Char}
    (h : takeExponent start s = (e, left)) :
    (countDigits s).2 = (countDigits left).2 ∧ (e ≠ none → startsWithDigit left = false) := by
  induction s generalizing start with
  | nil =>
    cases h
    exact ⟨rfl, fun _ => rfl⟩
  | cons c s ih =>
    by_cases hc : isDigit c = true
    · have hskip : (countDigits (c :: s)).2 = (countDigits s).2 := by simp [countDigits, hc]
      rw [hskip]
      by_cases hle : start * 10 + digitValue c ≤ exponentLimit
      · exact ih (by simpa [takeExponent, hc, hle] using h)
      · obtain ⟨rfl, rfl⟩ : none = e ∧ s = left := by simpa [takeExponent, hc, hle] using h
        exact ⟨rfl, fun hnone => absurd rfl hnone⟩
    · obtain ⟨_, rfl⟩ : some start = e ∧ c :: s = left := by simpa [takeExponent, hc] using h
      exact ⟨rfl, fun _ => Bool.eq_false_iff.mpr hc⟩

/-- The sign of an exponent, and whether it is a minus. -/
def takeSign (s : List Char) : Bool × List Char :=
  match s with
  | '+' :: rest => (false, rest)
  | '-' :: rest => (true, rest)
  | s => (false, s)

theorem takeSign_cases (s : List Char) :
    (∃ t, s = '+' :: t ∧ takeSign s = (false, t)) ∨
    (∃ t, s = '-' :: t ∧ takeSign s = (true, t)) ∨
    (takeSign s = (false, s) ∧ (∀ t, s ≠ '+' :: t) ∧ ∀ t, s ≠ '-' :: t) := by
  unfold takeSign
  split
  · exact Or.inl ⟨_, rfl, rfl⟩
  · exact Or.inr (Or.inl ⟨_, rfl, rfl⟩)
  · rename_i hplus hminus
    exact Or.inr (Or.inr ⟨rfl, hplus, hminus⟩)

/-- Reads the digits of an exponent; its sign has been read. -/
def readPower (negative : Bool) (significand : Nat) (start : Int) (down : Bool) :
    List Char → Read Number
  | [] => .error (.before .endInValue [])
  | c :: rest =>
    if isDigit c then
      match takeExponent (digitValue c) rest with
      | (some e, rest) =>
        readScaled negative significand (if down then start - e else start + e) rest
      | (none, rest) =>
        if significand ≠ 0 ∧ ¬ down then .error (.before .numberOutOfRange rest)
        else .ok (.double (.zero negative), (countDigits rest).2)
    else .error (.on .invalidNumber (c :: rest))

/-- Reads what follows the digits of an integer, of which some were dropped. -/
def readRest (negative : Bool) (n dropped : Nat) : List Char → Read Number
  | '.' :: rest => readFraction negative n dropped rest
  | 'e' :: rest | 'E' :: rest => readExponent negative n dropped rest
  | rest =>
    if dropped = 0 then signedInteger negative n rest else readScaled negative n dropped rest

theorem readNumber_cons {c : Char} {m count dropped : Nat} {left after : List Char}
    (htake : takeDigits (digitValue c) s = (m, count, left))
    (hcount : countDigits left = (dropped, after)) :
    readNumber negative (c :: s) =
      if c = '0' ∧ startsWithDigit s = true then .error (.on .invalidNumber s)
      else if isDigit c = true then readRest negative m dropped after
      else .error (.on .invalidNumber (c :: s)) := by
  have hsplit : readNumber negative (c :: s) =
      if c = '0' ∧ startsWithDigit s = true then .error (.on .invalidNumber s)
      else if isDigit c = true then
        readRest negative (takeDigits (digitValue c) s).1
          (countDigits (takeDigits (digitValue c) s).2.2).1
          (countDigits (takeDigits (digitValue c) s).2.2).2
      else .error (.on .invalidNumber (c :: s)) := rfl
  rw [hsplit, htake, hcount]

section Read

variable {significand : Nat} {exponent : Int}

theorem readExponent_eq (s : List Char) :
    readExponent negative significand exponent s =
      readPower negative significand exponent (takeSign s).1 (takeSign s).2 := rfl

theorem readFraction_eq {m count k : Nat} {left after : List Char}
    (htake : takeDigits significand s = (m, count, left))
    (hcount : countDigits left = (k, after)) :
    readFraction negative significand exponent s =
      if count = 0 ∧ k = 0 then .error (numberStops left)
      else readTail negative m (exponent - count) after := by
  simp only [readFraction, htake]
  cases hdigit : startsWithDigit left with
  | true =>
    have hk := countDigits_of_startsWithDigit hdigit
    rw [hcount] at hk
    rw [if_pos rfl, if_neg fun hnone => hk hnone.2, hcount]
  | false =>
    obtain ⟨rfl, rfl⟩ := Prod.mk.inj ((countDigits_of_not hdigit).symm.trans hcount)
    simp

end Read

/-- Steps over the digits of an exponent; its sign has been stepped over. -/
def skipPower : List Char → Read Unit
  | [] => .error (.before .invalidNumber [])
  | c :: rest =>
    if isDigit c then .ok ((), (countDigits rest).2) else .error (.on .invalidNumber (c :: rest))

theorem skipExponent_eq (s : List Char) : skipExponent s = skipPower (takeSign s).2 := by
  rcases takeSign_cases s with ⟨t, rfl, hsign⟩ | ⟨t, rfl, hsign⟩ | ⟨hsign, hplus, hminus⟩
  · rfl
  · rfl
  · rw [hsign]
    unfold skipExponent
    split
    · exact absurd rfl (hplus _)
    · exact absurd rfl (hminus _)
    · rfl

/-- Steps over an exponent if there is one. -/
def skipTail : List Char → Read Unit
  | 'e' :: rest | 'E' :: rest => skipExponent rest
  | rest => .ok ((), rest)

/-- Steps over what follows the digits of an integer. -/
def skipRest : List Char → Read Unit
  | '.' :: rest =>
    let (count, rest) := countDigits rest
    if count = 0 then .error (.on .invalidNumber rest) else skipTail rest
  | 'e' :: rest | 'E' :: rest => skipExponent rest
  | rest => .ok ((), rest)

theorem skipNumber_cons {c : Char} {k : Nat} {after : List Char}
    (hcount : countDigits s = (k, after)) (hlead : ¬ (c = '0' ∧ startsWithDigit s = true))
    (hc : isDigit c = true) : skipNumber (c :: s) = skipRest after := by
  have hafter : (if c = '0' then s else (countDigits s).2) = after := by
    split
    · rename_i hzero
      have hnone : startsWithDigit s = false := Bool.eq_false_iff.mpr fun h => hlead ⟨hzero, h⟩
      rw [countDigits_of_not hnone] at hcount
      exact (Prod.mk.inj hcount).2
    · rw [hcount]
  have hsplit : skipNumber (c :: s) =
      if c = '0' ∧ startsWithDigit s = true then .error (.on .invalidNumber s)
      else if isDigit c = true then skipRest (if c = '0' then s else (countDigits s).2)
      else .error (.on .invalidNumber (c :: s)) := rfl
  rw [hsplit, if_neg hlead, if_pos hc, hafter]

section Step

variable {significand : Nat} {exponent : Int}

theorem rest_of_readScaled (h : readScaled negative significand exponent s = .ok (n, rest)) :
    s = rest := by
  unfold readScaled at h
  split at h
  · cases h
    rfl
  · cases h

theorem rest_of_signedInteger {m : Nat} (h : signedInteger negative m s = .ok (n, rest)) :
    s = rest := by
  unfold signedInteger at h
  split at h
  · split at h
    · cases h
      rfl
    · exact rest_of_readScaled h
  · cases h
    rfl

theorem skipPower_of_readPower {down : Bool}
    (h : readPower negative significand exponent down s = .ok (n, rest)) :
    skipPower s = .ok ((), rest) := by
  cases s with
  | nil => cases h
  | cons c t =>
    rw [readPower] at h
    split at h
    · rename_i hc
      cases htake : takeExponent (digitValue c) t with
      | mk e left =>
        rw [htake] at h
        obtain ⟨hcount, hnone⟩ := countDigits_of_takeExponent htake
        rw [skipPower, if_pos hc, hcount]
        cases e with
        | some e =>
          rw [countDigits_of_not (hnone (Option.some_ne_none e)), rest_of_readScaled h]
        | none =>
          simp only at h
          split at h
          · cases h
          · cases h
            rfl
    · cases h

theorem skipExponent_of_readExponent
    (h : readExponent negative significand exponent s = .ok (n, rest)) :
    skipExponent s = .ok ((), rest) := by
  rw [readExponent_eq] at h
  rw [skipExponent_eq]
  exact skipPower_of_readPower h

theorem skipTail_of_ne (hlow : ∀ rest, s = 'e' :: rest → False)
    (hup : ∀ rest, s = 'E' :: rest → False) : skipTail s = .ok ((), s) := by
  unfold skipTail
  split
  · exact absurd rfl (hlow _)
  · exact absurd rfl (hup _)
  · rfl

theorem skipTail_of_readTail (h : readTail negative significand exponent s = .ok (n, rest)) :
    skipTail s = .ok ((), rest) := by
  unfold readTail at h
  split at h
  · exact skipExponent_of_readExponent h
  · exact skipExponent_of_readExponent h
  · rename_i hlow hup
    obtain rfl := rest_of_readScaled h
    exact skipTail_of_ne hlow hup

theorem skipRest_of_readRest {dropped : Nat}
    (h : readRest negative significand dropped s = .ok (n, rest)) :
    skipRest s = .ok ((), rest) := by
  unfold readRest at h
  unfold skipRest
  split at h
  · rename_i t
    rcases htake : takeDigits significand t with ⟨m, count, left⟩
    cases hcount : countDigits left with
    | mk k after =>
      rw [readFraction_eq htake hcount] at h
      split at h
      · cases h
      · rename_i hsome
        simp only [countDigits_of_takeDigits htake hcount]
        rw [if_neg (by omega)]
        exact skipTail_of_readTail h
  · exact skipExponent_of_readExponent h
  · exact skipExponent_of_readExponent h
  · split at h
    · rw [rest_of_signedInteger h]
    · rw [rest_of_readScaled h]

end Step

/-- What is read as a number is stepped over as one. -/
theorem skipNumber_of_readNumber (h : readNumber negative s = .ok (n, rest)) :
    skipNumber s = .ok ((), rest) := by
  cases s with
  | nil => cases h
  | cons c s =>
    rcases htake : takeDigits (digitValue c) s with ⟨m, count, left⟩
    cases hcount : countDigits left with
    | mk dropped after =>
      rw [readNumber_cons htake hcount] at h
      split at h
      · cases h
      · rename_i hlead
        split at h
        · rename_i hc
          rw [skipNumber_cons (countDigits_of_takeDigits htake hcount) hlead hc]
          exact skipRest_of_readRest h
        · cases h

end AccountPortal.Json
