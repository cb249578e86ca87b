import AccountPortal.Host.Config
import AccountPortal.Proofs.Host.Numeral

/-!
What it is for a text to be a port: decimal digits, perhaps with a plus sign in front, that
are worth a number of sixteen bits. There may be any number of leading zeros. The reader
gives up at the first digit that takes it to the bound, and no digit behind that could
have brought it back.
-/
namespace AccountPortal.Host.Unsigned

/-- Digits that are worth a number, with or without a plus sign in front. -/
def Spells (s : List Char) (n : Nat) : Prop :=
  ∃ digits, (s = digits ∨ s = '+' :: digits) ∧ digits ≠ [] ∧
    (∀ c ∈ digits, c.isDigit = true) ∧ Nat.ofDigitChars 10 digits 0 = n

/-- More digits never make a number smaller, so one that has reached the bound stays there. -/
theorem appendDigits_eq_ok_iff {bound n m : Nat} {s : List Char} (hn : n < bound) :
    appendDigits bound n s = .ok m ↔
      (∀ c ∈ s, c.isDigit = true) ∧ Nat.ofDigitChars 10 s n = m ∧ m < bound := by
  induction s generalizing n with
  | nil =>
    simp only [appendDigits, Except.ok.injEq, Nat.ofDigitChars, List.foldl_nil]
    constructor
    · rintro rfl
      exact ⟨by simp, rfl, hn⟩
    · exact fun h => h.2.1
  | cons c s ih =>
    rw [appendDigits, digit?_eq_ite, Nat.ofDigitChars_cons, List.forall_mem_cons]
    by_cases hc : c.isDigit = true
    · simp only [hc, if_true, true_and]
      rw [Nat.mul_comm n 10]
      by_cases hlt : 10 * n + (c.toNat - '0'.toNat) < bound
      · rw [if_pos hlt, ih hlt]
      · -- What has been read reaches the bound, and reading on does not make it smaller.
        rw [if_neg hlt]
        constructor
        · exact nofun
        · rintro ⟨_, rfl, hm⟩
          rw [Nat.ofDigitChars_eq_ofDigitChars_zero] at hm
          have hgrown := Nat.le_mul_of_pos_left (10 * n + (c.toNat - '0'.toNat))
            (Nat.pow_pos (n := s.length) (by decide : 0 < 10))
          omega
    · simp [hc]

/-- What is left of a text without a plus sign in front. -/
def behindSign : List Char → List Char
  | '+' :: rest => rest
  | s => s

theorem behindSign_eq (s : List Char) : s = behindSign s ∨ s = '+' :: behindSign s := by
  unfold behindSign
  split
  · exact Or.inr rfl
  · exact Or.inl rfl

theorem behindSign_of_digits {digits : List Char} (h : ∀ c ∈ digits, c.isDigit = true) :
    behindSign digits = digits := by
  unfold behindSign
  split
  · exact absurd (h '+' List.mem_cons_self) (by decide)
  · rfl

theorem spells_iff {s : List Char} {n : Nat} :
    Spells s n ↔ behindSign s ≠ [] ∧ (∀ c ∈ behindSign s, c.isDigit = true) ∧
      Nat.ofDigitChars 10 (behindSign s) 0 = n := by
  constructor
  · rintro ⟨digits, rfl | rfl, hne, hdigits, hn⟩
    · rw [behindSign_of_digits hdigits]
      exact ⟨hne, hdigits, hn⟩
    · exact ⟨hne, hdigits, hn⟩
  · exact fun h => ⟨behindSign s, behindSign_eq s, h⟩

theorem parse_eq_ok_iff {bound n : Nat} {s : List Char} (hbound : 0 < bound) :
    parse bound s = .ok n ↔ Spells s n ∧ n < bound := by
  have hparse : parse bound s = .ok n ↔
      behindSign s ≠ [] ∧ appendDigits bound 0 (behindSign s) = .ok n := by
    unfold parse
    split
    · simp [behindSign]
    · simp [behindSign]
    · rename_i rest hrest
      have hne : rest ≠ [] := fun h => hrest h
      simp [behindSign, hne]
    · rename_i hnil _ hsign
      have hs : behindSign s = s := by
        unfold behindSign
        split
        · exact absurd rfl (hsign _)
        · rfl
      have hne : s ≠ [] := fun h => hnil h
      simp [hs, hne]
  rw [hparse, appendDigits_eq_ok_iff hbound, spells_iff]
  simp only [and_assoc]

end AccountPortal.Host.Unsigned

namespace AccountPortal.Host.Config

/-- A text spells a port. -/
def SpellsPort (s : List Char) (port : UInt16) : Prop :=
  Unsigned.Spells s port.toNat

theorem parsePort?_eq_some_iff {s : List Char} {port : UInt16} :
    parsePort? s = some port ↔ SpellsPort s port := by
  have hbound {n : Nat} : Unsigned.parse 65536 s = .ok n ↔ Unsigned.Spells s n ∧ n < 65536 :=
    Unsigned.parse_eq_ok_iff (by decide)
  unfold parsePort?
  constructor
  · intro h
    split at h
    · rename_i n hn
      obtain ⟨hspells, hlt⟩ := hbound.mp hn
      obtain rfl := Option.some.inj h
      rwa [SpellsPort, UInt16.toNat_ofNat_of_lt' hlt]
    · contradiction
  · intro h
    rw [hbound.mpr ⟨h, port.toNat_lt⟩]
    simp

end AccountPortal.Host.Config
