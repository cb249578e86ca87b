import AccountPortal.Host.Address
import Mathlib.Data.List.Induction

/-!
Numerals inside an address. A reader takes as many digits as there are, so what it finds
depends on where they end. A byte is read from its decimal text and from no other one; a
group is read from up to four hexadecimal digits, of either case and with leading zeros.
-/
namespace AccountPortal.Host.Unsigned

theorem digit?_eq_ite (c : Char) :
    digit? c = if c.isDigit = true then some (c.toNat - '0'.toNat) else none := by
  have hiff : ('0' ≤ c ∧ c ≤ '9') ↔ c.isDigit = true := by
    simp only [Char.isDigit, Bool.and_eq_true, decide_eq_true_eq, ge_iff_le]
    exact Iff.rfl
  simp only [digit?, hiff]
  rfl

end AccountPortal.Host.Unsigned

namespace AccountPortal.Host.Address

/-- No digit is at the front of a text. -/
def EndsDigits (digit? : Char → Option Nat) (rest : List Char) : Prop :=
  ∀ c ∈ rest.head?, digit? c = none

section Digits

variable {digit? : Char → Option Nat} {radix : Nat}

/-- All digits at the front are taken, and nothing else. -/
theorem takeDigits_eq_iff {s rest : List Char} {ds : List Nat} :
    takeDigits digit? s = (ds, rest) ↔
      ∃ text, s = text ++ rest ∧ text.map digit? = ds.map some ∧ EndsDigits digit? rest := by
  induction s generalizing ds with
  | nil =>
    constructor
    · intro h
      obtain ⟨rfl, rfl⟩ := Prod.mk.inj h
      exact ⟨[], rfl, rfl, by simp [EndsDigits]⟩
    · rintro ⟨text, hs, hds, _⟩
      obtain ⟨rfl, rfl⟩ := List.append_eq_nil_iff.mp hs.symm
      rw [List.map_eq_nil_iff.mp hds.symm]
      rfl
  | cons c s ih =>
    cases hc : digit? c with
    | none =>
      have htake : takeDigits digit? (c :: s) = ([], c :: s) := by simp [takeDigits, hc]
      rw [htake]
      constructor
      · intro h
        obtain ⟨rfl, rfl⟩ := Prod.mk.inj h
        exact ⟨[], rfl, rfl, by simpa [EndsDigits] using hc⟩
      · rintro ⟨_ | ⟨b, text⟩, hs, hds, _⟩
        · rw [List.map_eq_nil_iff.mp hds.symm, hs, List.nil_append]
        · obtain ⟨rfl, _⟩ := List.cons.inj hs
          cases ds with
          | nil => cases hds
          | cons d ds => cases hc.symm.trans (List.cons.inj hds).1
    | some d =>
      have htake : takeDigits digit? (c :: s) =
          (d :: (takeDigits digit? s).1, (takeDigits digit? s).2) := by
        simp [takeDigits, hc]
      rw [htake]
      constructor
      · intro h
        obtain ⟨rfl, hrest⟩ := Prod.mk.inj h
        obtain ⟨text, rfl, hds, hend⟩ := ih.mp (Prod.ext rfl hrest)
        exact ⟨c :: text, rfl, by rw [List.map_cons, hc, hds, List.map_cons], hend⟩
      · rintro ⟨_ | ⟨b, text⟩, hs, hds, hend⟩
        · rw [List.nil_append] at hs
          cases hc.symm.trans (hend c (by rw [← hs]; rfl))
        · obtain ⟨rfl, hsplit⟩ := List.cons.inj hs
          cases ds with
          | nil => cases hds
          | cons e ds =>
            obtain ⟨hd, hmore⟩ := List.cons.inj hds
            rw [ih.mpr ⟨text, hsplit, hmore, hend⟩, Option.some.inj (hc.symm.trans hd)]

/-- A reader of digits that turns some of them down and makes something of the others. -/
theorem taken_eq_some_iff {β : Type} (bad : List Nat → Prop) [DecidablePred bad]
    (f : List Nat → β) {s rest : List Char} {b : β} :
    (if bad (takeDigits digit? s).1 then none
      else some (f (takeDigits digit? s).1, (takeDigits digit? s).2)) = some (b, rest) ↔
      ∃ text ds, s = text ++ rest ∧ text.map digit? = ds.map some ∧ EndsDigits digit? rest ∧
        ¬ bad ds ∧ f ds = b := by
  constructor
  · intro h
    obtain ⟨hgood, heq⟩ := Option.ite_none_left_eq_some.mp h
    obtain ⟨hb, rfl⟩ := Prod.mk.inj (Option.some.inj heq)
    obtain ⟨text, hs, hds, hend⟩ := takeDigits_eq_iff.mp (rfl : takeDigits digit? s = (_, _))
    exact ⟨text, _, hs, hds, hend, hgood, hb⟩
  · rintro ⟨text, ds, hs, hds, hend, hgood, rfl⟩
    rw [takeDigits_eq_iff.mpr ⟨text, hs, hds, hend⟩, if_neg hgood]

theorem valueOf_concat (ds : List Nat) (d : Nat) :
    valueOf radix (ds ++ [d]) = valueOf radix ds * radix + d := by
  simp [valueOf]

/-- A number is written with the digits that it is worth, without leading zeros. -/
theorem exists_map_toDigits (hradix : 1 < radix)
    (hdigit : ∀ d < radix, digit? d.digitChar = some d) (n : Nat) :
    ∃ ds, (Nat.toDigits radix n).map digit? = ds.map some ∧ valueOf radix ds = n ∧
      (ds.head? = some 0 → ds = [0]) := by
  induction n using Nat.base_induction radix hradix with
  | single m hm =>
    refine ⟨[m], by simp [Nat.toDigits_of_lt_base hm, hdigit m hm], by simp [valueOf], ?_⟩
    simp
  | digit m k hk hm ih =>
    obtain ⟨ds, htext, hvalue, hzero⟩ := ih
    refine ⟨ds ++ [k], ?_, by rw [valueOf_concat, hvalue, Nat.mul_comm], fun hhead => ?_⟩
    · rw [← Nat.toDigits_append_toDigits hradix hm hk, Nat.toDigits_of_lt_base hk]
      simp [htext, hdigit k hk]
    · cases ds with
      | nil => simp [valueOf] at hvalue; omega
      | cons d ds =>
        rw [hzero hhead] at hvalue
        simp [valueOf] at hvalue
        omega

end Digits

theorem isDigit_of_mem_decimal {n : Nat} {c : Char} (h : c ∈ decimal n) : c.isDigit = true :=
  Nat.isDigit_of_mem_toDigits (by decide) (by decide) h

theorem digit?_eq_some_iff {c : Char} {d : Nat} :
    Unsigned.digit? c = some d ↔ d < 10 ∧ c = d.digitChar := by
  constructor
  · intro h
    unfold Unsigned.digit? at h
    split at h
    · rename_i hrange
      have hlow : 48 ≤ c.toNat := hrange.1
      have hhigh : c.toNat ≤ 57 := hrange.2
      have hd : c.toNat - 48 = d := Option.some.inj h
      have hlt : d < 10 := by omega
      refine ⟨hlt, Char.toNat_inj.mp ?_⟩
      rw [Nat.toNat_digitChar_of_lt_ten hlt]
      omega
    · contradiction
  · rintro ⟨hlt, rfl⟩
    have hall : ∀ d < 10, Unsigned.digit? d.digitChar = some d := by decide
    exact hall d hlt

theorem map_digit?_eq_iff {text : List Char} {ds : List Nat} :
    text.map Unsigned.digit? = ds.map some ↔ (∀ d ∈ ds, d < 10) ∧ text = ds.map Nat.digitChar := by
  induction text generalizing ds with
  | nil => cases ds <;> simp
  | cons c text ih =>
    cases ds with
    | nil => simp
    | cons d ds =>
      simp only [List.map_cons, List.cons.injEq, ih, digit?_eq_some_iff, List.forall_mem_cons]
      constructor
      · rintro ⟨⟨hd, rfl⟩, hds, rfl⟩
        exact ⟨⟨hd, hds⟩, rfl, rfl⟩
      · rintro ⟨⟨hd, hds⟩, rfl, rfl⟩
        exact ⟨⟨hd, rfl⟩, hds, rfl⟩

/-- Digits without leading zeros are what their number is written with. -/
theorem toDigits_valueOf {ds : List Nat} (hne : ds ≠ []) (hlt : ∀ d ∈ ds, d < 10)
    (hzero : ds.head? = some 0 → ds = [0]) :
    Nat.toDigits 10 (valueOf 10 ds) = ds.map Nat.digitChar := by
  induction ds using List.reverseRecOn with
  | nil => contradiction
  | append_singleton ds d ih =>
    have hd : d < 10 := hlt d (by simp)
    by_cases hds : ds = []
    · subst hds
      simpa [valueOf] using Nat.toDigits_of_lt_base hd
    · have hhead : ds.head? ≠ some 0 := by
        intro h
        have hlength := congrArg List.length (hzero (by rw [List.head?_append, h]; rfl))
        have := List.length_pos_iff.mpr hds
        simp at hlength
        contradiction
      have hwritten := ih hds (fun e he => hlt e (List.mem_append_left _ he))
        fun h => absurd h hhead
      -- Were the number before the last digit zero, it would be written as one zero.
      have hpos : 0 < valueOf 10 ds := by
        rw [Nat.pos_iff_ne_zero]
        intro hvalue
        rw [hvalue, Nat.toDigits_zero] at hwritten
        cases ds with
        | nil => contradiction
        | cons e ds =>
          have he := (List.cons.inj hwritten).1
          rw [Nat.zero_eq_digitChar] at he
          exact hhead (by rw [he]; rfl)
      rw [valueOf_concat, Nat.mul_comm, ← Nat.toDigits_append_toDigits (by decide) hpos hd,
        hwritten, Nat.toDigits_of_lt_base hd, List.map_append, List.map_singleton]

theorem readByte_eq_some_iff_digits {s rest : List Char} {b : UInt8} :
    readByte s = some (b, rest) ↔ ∃ text ds, s = text ++ rest ∧
      text.map Unsigned.digit? = ds.map some ∧ EndsDigits Unsigned.digit? rest ∧
      ¬ (ds.isEmpty ∨ 3 < ds.length ∨ (ds.head? = some 0 ∧ 1 < ds.length) ∨ 255 < valueOf 10 ds) ∧
      UInt8.ofNat (valueOf 10 ds) = b :=
  taken_eq_some_iff (fun ds => ds.isEmpty ∨ 3 < ds.length ∨ (ds.head? = some 0 ∧ 1 < ds.length) ∨
    255 < valueOf 10 ds) fun ds => UInt8.ofNat (valueOf 10 ds)

/-- A byte has exactly one text. -/
theorem readByte_eq_some_iff {s rest : List Char} {b : UInt8} :
    readByte s = some (b, rest) ↔
      s = decimal b.toNat ++ rest ∧ EndsDigits Unsigned.digit? rest := by
  rw [readByte_eq_some_iff_digits]
  constructor
  · rintro ⟨text, ds, rfl, hds, hend, hgood, rfl⟩
    simp only [List.isEmpty_iff, not_or, not_and, Nat.not_lt] at hgood
    obtain ⟨hne, _, hzero, hmax⟩ := hgood
    obtain ⟨hlt, rfl⟩ := map_digit?_eq_iff.mp hds
    have hbyte : (UInt8.ofNat (valueOf 10 ds)).toNat = valueOf 10 ds := by
      rw [UInt8.toNat_ofNat']
      omega
    have honly : ds.head? = some 0 → ds = [0] := by
      intro hhead
      have hone := hzero hhead
      cases ds with
      | nil => contradiction
      | cons d ds =>
        have hnil : ds = [] := by simpa using hone
        rw [hnil, Option.some.inj hhead]
    rw [hbyte, decimal, toDigits_valueOf hne hlt honly]
    exact ⟨rfl, hend⟩
  · rintro ⟨rfl, hend⟩
    obtain ⟨ds, htext, hvalue, hzero⟩ := exists_map_toDigits (by decide : 1 < 10)
      (fun d hd => digit?_eq_some_iff.mpr ⟨hd, rfl⟩) b.toNat
    have hlength : ds.length = (Nat.toDigits 10 b.toNat).length := by
      simpa using (congrArg List.length htext).symm
    have hpos : 0 < (Nat.toDigits 10 b.toNat).length := Nat.length_toDigits_pos
    have hbyte := b.toNat_lt
    have hthree : (Nat.toDigits 10 b.toNat).length ≤ 3 :=
      (Nat.length_toDigits_le_iff (by decide) (by decide)).mpr (by omega)
    refine ⟨_, ds, rfl, htext, hend, ?_, by rw [hvalue, UInt8.ofNat_toNat]⟩
    rw [hvalue]
    rintro (hnil | hlong | ⟨hhead, hmore⟩ | hlarge)
    · rw [List.isEmpty_iff.mp hnil] at hlength
      simp at hlength
      omega
    · omega
    · rw [hzero hhead] at hmore
      simp at hmore
    · omega

/-- Up to four hexadecimal digits that are worth a group. -/
def GroupText (text : List Char) (g : UInt16) : Prop :=
  ∃ ds, text.map Text.hexDigit? = ds.map some ∧ ds ≠ [] ∧ ds.length ≤ 4 ∧ valueOf 16 ds = g.toNat

theorem valueOf_lt (ds : List Nat) (hlt : ∀ d ∈ ds, d < 16) :
    valueOf 16 ds < Nat.pow 16 ds.length := by
  induction ds using List.reverseRecOn with
  | nil => decide
  | append_singleton ds d ih =>
    have hds := ih fun e he => hlt e (List.mem_append_left _ he)
    have hd : d < 16 := hlt d (by simp)
    have hpow : Nat.pow 16 (ds ++ [d]).length = Nat.pow 16 ds.length * 16 := by
      rw [List.length_append]
      rfl
    rw [valueOf_concat, hpow]
    omega

theorem hexDigit?_cases {c : Char} {d : Nat} (h : Text.hexDigit? c = some d) :
    (48 ≤ c.toNat ∧ c.toNat ≤ 57 ∧ c.toNat - 48 = d) ∨
      (97 ≤ c.toNat ∧ c.toNat ≤ 102 ∧ c.toNat - 87 = d) ∨
      (65 ≤ c.toNat ∧ c.toNat ≤ 70 ∧ c.toNat - 55 = d) := by
  unfold Text.hexDigit? at h
  split at h
  · rename_i hrange
    exact Or.inl ⟨hrange.1, hrange.2, Option.some.inj h⟩
  split at h
  · rename_i hrange
    exact Or.inr (Or.inl ⟨hrange.1, hrange.2, Option.some.inj h⟩)
  split at h
  · rename_i hrange
    exact Or.inr (Or.inr ⟨hrange.1, hrange.2, Option.some.inj h⟩)
  · contradiction

theorem readGroup_eq_some_iff_digits {s rest : List Char} {g : UInt16} :
    readGroup s = some (g, rest) ↔ ∃ text ds, s = text ++ rest ∧
      text.map Text.hexDigit? = ds.map some ∧ EndsDigits Text.hexDigit? rest ∧
      ¬ (ds.isEmpty ∨ 4 < ds.length) ∧ UInt16.ofNat (valueOf 16 ds) = g :=
  taken_eq_some_iff (fun ds => ds.isEmpty ∨ 4 < ds.length) fun ds => UInt16.ofNat (valueOf 16 ds)

theorem readGroup_eq_some_iff {s rest : List Char} {g : UInt16} :
    readGroup s = some (g, rest) ↔
      ∃ text, s = text ++ rest ∧ GroupText text g ∧ EndsDigits Text.hexDigit? rest := by
  rw [readGroup_eq_some_iff_digits]
  constructor
  · rintro ⟨text, ds, hs, hds, hend, hgood, rfl⟩
    simp only [List.isEmpty_iff, not_or, Nat.not_lt] at hgood
    obtain ⟨hne, hfour⟩ := hgood
    refine ⟨text, hs, ⟨ds, hds, hne, hfour, ?_⟩, hend⟩
    have hlt : ∀ d ∈ ds, d < 16 := by
      intro d hd
      have hmem : some d ∈ text.map Text.hexDigit? := hds ▸ List.mem_map_of_mem hd
      obtain ⟨c, _, hc⟩ := List.mem_map.mp hmem
      have := hexDigit?_cases hc
      omega
    have hbound : valueOf 16 ds < 65536 :=
      Nat.lt_of_lt_of_le (valueOf_lt _ hlt) (Nat.pow_le_pow_right (by decide) hfour)
    rw [UInt16.toNat_ofNat']
    omega
  · rintro ⟨text, hs, ⟨ds, hds, hne, hfour, hvalue⟩, hend⟩
    refine ⟨text, ds, hs, hds, hend, ?_, by rw [hvalue, UInt16.ofNat_toNat]⟩
    simp [hne, hfour]

/-- The hexadecimal digits of a group. -/
theorem groupText_hexDigits (g : UInt16) : GroupText (Text.hexDigits g.toNat) g := by
  have hdigit : ∀ d < 16, Text.hexDigit? d.digitChar = some d := by decide
  obtain ⟨ds, htext, hvalue, _⟩ := exists_map_toDigits (by decide : 1 < 16) hdigit g.toNat
  have hlength : ds.length = (Nat.toDigits 16 g.toNat).length := by
    simpa using (congrArg List.length htext).symm
  have hpos : 0 < (Nat.toDigits 16 g.toNat).length := Nat.length_toDigits_pos
  have hgroup := g.toNat_lt
  have hfour : (Nat.toDigits 16 g.toNat).length ≤ 4 :=
    (Nat.length_toDigits_le_iff (by decide) (by decide)).mpr (by omega)
  exact ⟨ds, htext, List.length_pos_iff.mp (by omega), by omega, hvalue⟩

end AccountPortal.Host.Address
