import AccountPortal.Proofs.Json.NumberStages
import Mathlib.Data.List.Basic

/-!
A reader looks no further than what it takes, apart from the character at which it
stops. So whatever is read from a text is read as well once the text is cut short
behind it, anywhere. A relation between a text and its rest says what was read, and
readings that follow each other compose.
-/
namespace AccountPortal.Json

open Decimal

/-- Something is taken from a text up to its rest, and likewise when less of the rest
follows. -/
def Takes (R : List Char → List Char → Prop) (s rest : List Char) : Prop :=
  ∃ taken, s = taken ++ rest ∧ ∀ kept, kept <+: rest → R (taken ++ kept) kept

namespace Takes

variable {R S : List Char → List Char → Prop} {s middle rest : List Char}

theorem stay (h : ∀ kept, kept <+: s → R kept kept) : Takes R s s := ⟨[], rfl, h⟩

/-- Nothing is taken from a text because of the character that it begins with. -/
theorem stop {c : Char} (hnil : R [] []) (hcons : ∀ t, R (c :: t) (c :: t)) :
    Takes R (c :: s) (c :: s) := by
  apply stay
  intro kept hk
  cases kept with
  | nil => exact hnil
  | cons d kept =>
    obtain ⟨rfl, _⟩ := List.cons_prefix_cons.mp hk
    exact hcons kept

theorem cons (c : Char) (h : Takes R s rest) :
    Takes (fun t rest => ∃ s, t = c :: s ∧ R s rest) (c :: s) rest := by
  obtain ⟨taken, rfl, hkept⟩ := h
  exact ⟨c :: taken, rfl, fun kept hk => ⟨taken ++ kept, rfl, hkept kept hk⟩⟩

/-- One thing after another. -/
theorem comp (h : Takes R s middle) (hnext : Takes S middle rest) :
    Takes (fun s rest => ∃ middle, R s middle ∧ S middle rest) s rest := by
  obtain ⟨first, rfl, hfirst⟩ := h
  obtain ⟨second, rfl, hsecond⟩ := hnext
  refine ⟨first ++ second, (List.append_assoc ..).symm, fun kept hk => ⟨second ++ kept, ?_, ?_⟩⟩
  · rw [List.append_assoc]
    exact hfirst _ ((List.prefix_append_right_inj second).mpr hk)
  · exact hsecond kept hk

/-- What follows from having been taken from the front of the text. -/
theorem mono (h : Takes R s rest) (hle : ∀ t kept, t <+: s → R t kept → S t kept) :
    Takes S s rest := by
  obtain ⟨taken, rfl, hkept⟩ := h
  exact ⟨taken, rfl, fun kept hk =>
    hle _ _ ((List.prefix_append_right_inj taken).mpr hk) (hkept kept hk)⟩

theorem length_le (h : Takes R s rest) : rest.length ≤ s.length := by
  obtain ⟨taken, rfl, _⟩ := h
  simp

/-- A text is taken in full once its rest is cut off. -/
theorem cut (h : Takes R s rest) : ∃ taken, s = taken ++ rest ∧ R taken [] := by
  obtain ⟨taken, rfl, hkept⟩ := h
  refine ⟨taken, rfl, ?_⟩
  simpa using hkept [] List.nil_prefix

end Takes

/-- A text that the blanks before it are taken from. -/
theorem takes_blanks {c : Char} {s rest : List Char} (h : skipBlanks s = c :: rest) :
    Takes (fun s rest => skipBlanks s = c :: rest) s rest := by
  induction s with
  | nil => cases h
  | cons b s ih =>
    by_cases hblank : b = ' ' ∨ b = '\n' ∨ b = '\t' ∨ b = '\r'
    · rw [skipBlanks, if_pos hblank] at h
      apply ((ih h).cons b).mono
      rintro _ kept _ ⟨t, rfl, ht⟩
      rw [skipBlanks, if_pos hblank, ht]
    · rw [skipBlanks, if_neg hblank] at h
      cases h
      exact ⟨[c], rfl, fun kept _ => by simp [skipBlanks, hblank]⟩

theorem readWord_eq_ok {word s rest : List Char} :
    readWord word s = .ok ((), rest) ↔ s = word ++ rest := by
  induction word generalizing s with
  | nil => simp [readWord]
  | cons w word ih =>
    cases s with
    | nil => simp [readWord]
    | cons c s =>
      rw [readWord]
      split <;> simp [*]

theorem takes_readWord {word s rest : List Char} (h : readWord word s = .ok ((), rest)) :
    Takes (fun s rest => readWord word s = .ok ((), rest)) s rest :=
  ⟨word, readWord_eq_ok.mp h, fun _ _ => readWord_eq_ok.mpr rfl⟩

theorem pushChar_eq_ok {c : Char} {r : Read (List Char)} {t rest : List Char} :
    pushChar c r = .ok (t, rest) ↔ ∃ u, r = .ok (u, rest) ∧ c :: u = t := by
  cases r with
  | error f => simp [pushChar]
  | ok got =>
    obtain ⟨u, rest'⟩ := got
    simp [pushChar, and_comm]

/-- The text of a string up to its closing quote, whatever follows. -/
structure StringText (text t : List Char) : Prop where
  read : ∀ after, readString (text ++ '"' :: after) = .ok (t, after)
  skip : ∀ after, skipString (text ++ '"' :: after) = .ok ((), after)

theorem StringText.nil : StringText [] [] where
  read after := by simp [readString]
  skip after := by simp [skipString]

/-- A part of the text that stands for one character. -/
theorem StringText.cons {part text t : List Char} {c : Char} (h : StringText text t)
    (hread : ∀ s, readString (part ++ s) = pushChar c (readString s))
    (hskip : ∀ s, skipString (part ++ s) = skipString s) :
    StringText (part ++ text) (c :: t) where
  read after := by
    rw [List.append_assoc, hread, h.read, pushChar]
  skip after := by
    rw [List.append_assoc, hskip, h.skip]

theorem exists_stringText {s t rest : List Char} (h : readString s = .ok (t, rest)) :
    ∃ text, s = text ++ '"' :: rest ∧ StringText text t := by
  fun_induction readString s generalizing t with
  | case2 s =>
    cases h
    exact ⟨[], rfl, .nil⟩
  | case9 a b c d n hn hlow hhigh a' b' c' d' s m hm hm' ih =>
    obtain ⟨u, hu, rfl⟩ := pushChar_eq_ok.mp h
    obtain ⟨text, rfl, htext⟩ := ih hu
    refine ⟨['\\', 'u', a, b, c, d, '\\', 'u', a', b', c', d'] ++ text, rfl, htext.cons ?_ ?_⟩
    · intro s
      simp [readString, hn, hlow, hhigh, hm, hm']
    · intro s
      simp [skipString, hn, hm]
  | case14 a b c d s n hn hlow hhigh ih =>
    obtain ⟨u, hu, rfl⟩ := pushChar_eq_ok.mp h
    obtain ⟨text, rfl, htext⟩ := ih hu
    refine ⟨['\\', 'u', a, b, c, d] ++ text, rfl, htext.cons ?_ ?_⟩
    · intro s
      simp [readString, hn, hlow, hhigh]
    · intro s
      simp [skipString, hn]
  | case16 e s he c hc ih =>
    obtain ⟨u, hu, rfl⟩ := pushChar_eq_ok.mp h
    obtain ⟨text, rfl, htext⟩ := ih hu
    refine ⟨['\\', e] ++ text, rfl, htext.cons ?_ ?_⟩
    · intro s
      simp [readString, hc]
    · intro s
      simp [skipString, hc]
  | case19 c s hquote hlast _ hescape hcontrol ih =>
    have hslash : c ≠ '\\' := by
      rintro rfl
      cases s with
      | nil => exact hlast rfl rfl
      | cons e s => exact hescape e s rfl rfl
    obtain ⟨u, hu, rfl⟩ := pushChar_eq_ok.mp h
    obtain ⟨text, rfl, htext⟩ := ih hu
    refine ⟨[c] ++ text, rfl, htext.cons ?_ ?_⟩
    · intro s
      simp [readString, hslash, hcontrol]
    · intro s
      simp [skipString, hslash, hcontrol]
  | _ => cases h

/-- A string is stepped over as far as it is read. -/
theorem skipString_of_readString {s t rest : List Char} (h : readString s = .ok (t, rest)) :
    skipString s = .ok ((), rest) := by
  obtain ⟨text, rfl, htext⟩ := exists_stringText h
  exact htext.skip rest

theorem takes_readString {s t rest : List Char} (h : readString s = .ok (t, rest)) :
    Takes (fun s rest => readString s = .ok (t, rest)) s rest := by
  obtain ⟨text, rfl, htext⟩ := exists_stringText h
  refine ⟨text ++ ['"'], by simp, fun kept _ => ?_⟩
  rw [List.append_assoc]
  exact htext.read kept

variable {negative : Bool} {s rest : List Char} {n : Number}

theorem ne_cons_of_front {c : Char} {s kept : List Char} (hk : kept <+: s)
    (h : ∀ t, s ≠ c :: t) (t : List Char) : kept ≠ c :: t := by
  rintro rfl
  obtain ⟨u, rfl⟩ := hk
  exact h _ rfl

theorem startsWithDigit_of_front {kept : List Char} (hk : kept <+: s)
    (h : startsWithDigit s = false) : startsWithDigit kept = false := by
  cases kept with
  | nil => rfl
  | cons d kept =>
    cases s with
    | nil => simp at hk
    | cons c s =>
      obtain ⟨rfl, _⟩ := List.cons_prefix_cons.mp hk
      exact h

theorem takes_countDigits {count : Nat} (h : countDigits s = (count, rest)) :
    Takes (fun s rest => countDigits s = (count, rest)) s rest := by
  induction s generalizing count with
  | nil =>
    cases h
    exact .stay fun kept hk => by rw [List.prefix_nil.mp hk, countDigits]
  | cons c s ih =>
    by_cases hc : isDigit c = true
    · cases hcount : countDigits s with
      | mk k left =>
        obtain ⟨rfl, rfl⟩ : k + 1 = count ∧ left = rest := by
          simpa [countDigits, hc, hcount] using h
        apply ((ih hcount).cons c).mono
        rintro _ kept _ ⟨t, rfl, ht⟩
        simp [countDigits, hc, ht]
    · obtain ⟨rfl, rfl⟩ : 0 = count ∧ c :: s = rest := by simpa [countDigits, hc] using h
      exact .stop rfl fun t => by simp [countDigits, hc]

theorem takes_takeDigits {start m count : Nat} (h : takeDigits start s = (m, count, rest)) :
    Takes (fun s rest => takeDigits start s = (m, count, rest)) s rest := by
  induction s generalizing start m count with
  | nil =>
    cases h
    exact .stay fun kept hk => by rw [List.prefix_nil.mp hk, takeDigits]
  | cons c s ih =>
    by_cases hc : isDigit c = true ∧ start * 10 + digitValue c < significandBound
    · cases htake : takeDigits (start * 10 + digitValue c) s with
      | mk m' more =>
        obtain ⟨rfl, rfl, rfl⟩ : m' = m ∧ more.1 + 1 = count ∧ more.2 = rest := by
          simpa [takeDigits, hc, htake] using h
        apply ((ih htake).cons c).mono
        rintro _ kept _ ⟨t, rfl, ht⟩
        simp [takeDigits, hc, ht]
    · obtain ⟨rfl, rfl, rfl⟩ : start = m ∧ 0 = count ∧ c :: s = rest := by
        simpa [takeDigits, hc] using h
      exact .stop rfl fun t => by simp [takeDigits, hc]

theorem takes_takeExponent {start : Nat} {e : Option Nat} (h : takeExponent start s = (e, rest)) :
    Takes (fun s rest => takeExponent start s = (e, rest)) s rest := by
  induction s generalizing start with
  | nil =>
    cases h
    exact .stay fun kept hk => by rw [List.prefix_nil.mp hk, takeExponent]
  | cons c s ih =>
    by_cases hc : isDigit c = true
    · by_cases hle : start * 10 + digitValue c ≤ exponentLimit
      · have hnext : takeExponent (start * 10 + digitValue c) s = (e, rest) := by
          simpa [takeExponent, hc, hle] using h
        apply ((ih hnext).cons c).mono
        rintro _ kept _ ⟨t, rfl, ht⟩
        simp [takeExponent, hc, hle, ht]
      · obtain ⟨rfl, rfl⟩ : none = e ∧ s = rest := by simpa [takeExponent, hc, hle] using h
        refine ⟨[c], rfl, fun kept _ => ?_⟩
        simp [takeExponent, hc, hle]
    · obtain ⟨rfl, rfl⟩ : some start = e ∧ c :: s = rest := by simpa [takeExponent, hc] using h
      exact .stop rfl fun t => by simp [takeExponent, hc]

theorem takes_takeSign {down : Bool} (h : takeSign s = (down, rest)) :
    Takes (fun s rest => takeSign s = (down, rest)) s rest := by
  rcases takeSign_cases s with ⟨t, rfl, hsign⟩ | ⟨t, rfl, hsign⟩ | ⟨hsign, hplus, hminus⟩
  · obtain ⟨rfl, rfl⟩ := Prod.mk.inj (hsign.symm.trans h)
    exact ⟨['+'], rfl, fun _ _ => rfl⟩
  · obtain ⟨rfl, rfl⟩ := Prod.mk.inj (hsign.symm.trans h)
    exact ⟨['-'], rfl, fun _ _ => rfl⟩
  · obtain ⟨rfl, rfl⟩ := Prod.mk.inj (hsign.symm.trans h)
    apply Takes.stay
    intro kept hk
    rcases takeSign_cases kept with ⟨t, ht, _⟩ | ⟨t, ht, _⟩ | ⟨hkept, _⟩
    · exact absurd ht (ne_cons_of_front hk hplus t)
    · exact absurd ht (ne_cons_of_front hk hminus t)
    · exact hkept

section Stages

variable {significand : Nat} {exponent : Int}

theorem takes_readScaled (h : readScaled negative significand exponent s = .ok (n, rest)) :
    Takes (fun s rest => readScaled negative significand exponent s = .ok (n, rest)) s rest := by
  unfold readScaled at h ⊢
  split at h
  · cases h
    exact .stay fun kept _ => rfl
  · cases h

theorem takes_signedInteger {m : Nat} (h : signedInteger negative m s = .ok (n, rest)) :
    Takes (fun s rest => signedInteger negative m s = .ok (n, rest)) s rest := by
  unfold signedInteger at h
  split at h
  · split at h
    · cases h
      exact .stay fun kept _ => by simp [signedInteger, *]
    · apply (takes_readScaled h).mono
      intro t kept _ ht
      simp [signedInteger, *]
  · cases h
    exact .stay fun kept _ => by simp [signedInteger, *]

theorem takes_readPower {down : Bool}
    (h : readPower negative significand exponent down s = .ok (n, rest)) :
    Takes (fun s rest => readPower negative significand exponent down s = .ok (n, rest))
      s rest := by
  cases s with
  | nil => cases h
  | cons c s =>
    rw [readPower] at h
    split at h
    · rename_i hc
      cases htake : takeExponent (digitValue c) s with
      | mk e left =>
        rw [htake] at h
        have hdigits := takes_takeExponent htake
        cases e with
        | some e =>
          apply ((hdigits.comp (takes_readScaled h)).cons c).mono
          rintro _ kept _ ⟨t, rfl, mid, ht, hscaled⟩
          simp [readPower, hc, ht, hscaled]
        | none =>
          simp only at h
          split at h
          · cases h
          · rename_i hsmall
            cases hcount : countDigits left with
            | mk k rest' =>
              rw [hcount] at h
              cases h
              apply ((hdigits.comp (takes_countDigits hcount)).cons c).mono
              rintro _ kept _ ⟨t, rfl, mid, ht, hmid⟩
              rw [readPower, if_pos hc, ht]
              simp only [if_neg hsmall, hmid]
    · cases h

theorem takes_readExponent (h : readExponent negative significand exponent s = .ok (n, rest)) :
    Takes (fun s rest => readExponent negative significand exponent s = .ok (n, rest)) s rest := by
  cases hsign : takeSign s with
  | mk down t =>
    rw [readExponent_eq, hsign] at h
    apply ((takes_takeSign hsign).comp (takes_readPower h)).mono
    rintro s kept _ ⟨t, ht, hpower⟩
    rw [readExponent_eq, ht]
    exact hpower

theorem takes_readTail (h : readTail negative significand exponent s = .ok (n, rest)) :
    Takes (fun s rest => readTail negative significand exponent s = .ok (n, rest)) s rest := by
  unfold readTail at h
  split at h
  · apply ((takes_readExponent h).cons 'e').mono
    rintro _ kept _ ⟨t, rfl, ht⟩
    exact ht
  · apply ((takes_readExponent h).cons 'E').mono
    rintro _ kept _ ⟨t, rfl, ht⟩
    exact ht
  · rename_i hlow hup
    apply (takes_readScaled h).mono
    intro t kept ht hscaled
    unfold readTail
    split
    · exact absurd rfl (ne_cons_of_front ht hlow _)
    · exact absurd rfl (ne_cons_of_front ht hup _)
    · exact hscaled

theorem takes_readFraction (h : readFraction negative significand exponent s = .ok (n, rest)) :
    Takes (fun s rest => readFraction negative significand exponent s = .ok (n, rest)) s rest := by
  rcases htake : takeDigits significand s with ⟨m, count, left⟩
  cases hcount : countDigits left with
  | mk k after =>
    rw [readFraction_eq htake hcount] at h
    split at h
    · cases h
    · rename_i hsome
      apply ((takes_takeDigits htake).comp
        ((takes_countDigits hcount).comp (takes_readTail h))).mono
      rintro t kept _ ⟨mid, hmid, left, hleft, htail⟩
      rw [readFraction_eq hmid hleft, if_neg hsome]
      exact htail

theorem takes_readRest {dropped : Nat}
    (h : readRest negative significand dropped s = .ok (n, rest)) :
    Takes (fun s rest => readRest negative significand dropped s = .ok (n, rest)) s rest := by
  unfold readRest at h
  split at h
  · apply ((takes_readFraction h).cons '.').mono
    rintro _ kept _ ⟨t, rfl, ht⟩
    exact ht
  · apply ((takes_readExponent h).cons 'e').mono
    rintro _ kept _ ⟨t, rfl, ht⟩
    exact ht
  · apply ((takes_readExponent h).cons 'E').mono
    rintro _ kept _ ⟨t, rfl, ht⟩
    exact ht
  · rename_i hpoint hlow hup
    have htakes : Takes (fun s rest =>
        (if dropped = 0 then signedInteger negative significand s
          else readScaled negative significand dropped s) = .ok (n, rest)) s rest := by
      by_cases hnone : dropped = 0
      · simp only [if_pos hnone] at h ⊢
        exact takes_signedInteger h
      · simp only [if_neg hnone] at h ⊢
        exact takes_readScaled h
    apply htakes.mono
    intro t kept ht hend
    unfold readRest
    split
    · exact absurd rfl (ne_cons_of_front ht hpoint _)
    · exact absurd rfl (ne_cons_of_front ht hlow _)
    · exact absurd rfl (ne_cons_of_front ht hup _)
    · exact hend

end Stages

/-- A number takes its first digit and what goes on from there. -/
theorem takes_readNumber {c : Char} (h : readNumber negative (c :: s) = .ok (n, rest)) :
    Takes (fun s rest => readNumber negative (c :: s) = .ok (n, rest)) s rest := by
  rcases htake : takeDigits (digitValue c) s with ⟨m, count, left⟩
  cases hcount : countDigits left with
  | mk dropped after =>
    rw [readNumber_cons htake hcount] at h
    split at h
    · cases h
    · rename_i hlead
      split at h
      · rename_i hc
        apply ((takes_takeDigits htake).comp
          ((takes_countDigits hcount).comp (takes_readRest h))).mono
        rintro t kept ht ⟨mid, hmid, left, hleft, hrest⟩
        rw [readNumber_cons hmid hleft, if_neg, if_pos hc]
        · exact hrest
        · rintro ⟨hzero, hdigit⟩
          apply hlead ⟨hzero, _⟩
          by_contra hnone
          rw [startsWithDigit_of_front ht (Bool.eq_false_iff.mpr hnone)] at hdigit
          contradiction
      · cases h

end AccountPortal.Json
