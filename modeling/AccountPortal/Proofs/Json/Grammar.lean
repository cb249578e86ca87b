import AccountPortal.Proofs.Json.Content
import AccountPortal.Proofs.Json.Taken

/-!
What it is for a text to spell a value, apart from any reader that finds out. Blanks
may stand before every part. That a text spells something depends on what is taken for
it and not on how the text goes on.
-/
namespace AccountPortal.Json

variable {d : Nat} {c : Char} {s t rest : List Char} {key : String} {v : Value}

/-- What follows the first character of a value without inner structure. -/
inductive Scalar : Char → List Char → Value → List Char → Prop where
  | null {s rest : List Char} : readNull s = .ok ((), rest) → Scalar 'n' s .null rest
  | yes {s rest : List Char} : readTrue s = .ok ((), rest) → Scalar 't' s (.bool true) rest
  | no {s rest : List Char} : readFalse s = .ok ((), rest) → Scalar 'f' s (.bool false) rest
  | negative {s rest : List Char} {n : Number} :
      readNumber true s = .ok (n, rest) → Scalar '-' s (.number n) rest
  | number {c : Char} {s rest : List Char} {n : Number} : isDigit c = true →
      readNumber false (c :: s) = .ok (n, rest) → Scalar c s (.number n) rest
  | string {s t rest : List Char} :
      readString s = .ok (t, rest) → Scalar '"' s (.string (String.ofList t)) rest

/-- A key with the colon after it. -/
inductive Key : List Char → String → List Char → Prop where
  | mk {s q t k rest : List Char} : skipBlanks s = '"' :: q → readString q = .ok (t, k) →
      skipBlanks k = ':' :: rest → Key s (String.ofList t) rest

/-- A part of a text: a value, the items of an array up to its closing bracket, or the
members of an object up to its closing brace. -/
inductive Part where
  | value (v : Value)
  | items (vs : List Value)
  | members (ms : List (String × Value))

/-- A text begins with a part, in which no more than the given number of arrays and
objects are open at once. -/
inductive Spells : Nat → List Char → Part → List Char → Prop where
  | scalar {d : Nat} {s t rest : List Char} {c : Char} {v : Value} :
      skipBlanks s = c :: t → Scalar c t v rest → Spells d s (.value v) rest
  | emptyArray {d : Nat} {s t rest : List Char} :
      skipBlanks s = '[' :: t → skipBlanks t = ']' :: rest →
      Spells (d + 1) s (.value (.array [])) rest
  | array {d : Nat} {s t rest : List Char} {vs : List Value} :
      skipBlanks s = '[' :: t → Spells d t (.items vs) rest →
      Spells (d + 1) s (.value (.array vs)) rest
  | emptyObject {d : Nat} {s t rest : List Char} :
      skipBlanks s = '\x7b' :: t → skipBlanks t = '\x7d' :: rest →
      Spells (d + 1) s (.value (.object [])) rest
  | object {d : Nat} {s t rest : List Char} {ms : List (String × Value)} :
      skipBlanks s = '\x7b' :: t → Spells d t (.members ms) rest →
      Spells (d + 1) s (.value (.object ms)) rest
  | lastItem {d : Nat} {s t rest : List Char} {v : Value} :
      Spells d s (.value v) t → skipBlanks t = ']' :: rest → Spells d s (.items [v]) rest
  | item {d : Nat} {s t more rest : List Char} {v : Value} {vs : List Value} :
      Spells d s (.value v) t → skipBlanks t = ',' :: more → Spells d more (.items vs) rest →
      Spells d s (.items (v :: vs)) rest
  | lastMember {d : Nat} {s t u rest : List Char} {key : String} {v : Value} :
      Key s key t → Spells d t (.value v) u → skipBlanks u = '\x7d' :: rest →
      Spells d s (.members [(key, v)]) rest
  | member {d : Nat} {s t u more rest : List Char} {key : String} {v : Value}
      {ms : List (String × Value)} :
      Key s key t → Spells d t (.value v) u → skipBlanks u = ',' :: more →
      Spells d more (.members ms) rest → Spells d s (.members ((key, v) :: ms)) rest

theorem skipBlanks_skipBlanks (s : List Char) : skipBlanks (skipBlanks s) = skipBlanks s := by
  induction s with
  | nil => rfl
  | cons c s ih =>
    by_cases hblank : c = ' ' ∨ c = '\n' ∨ c = '\t' ∨ c = '\r'
    · rw [skipBlanks, if_pos hblank, ih]
    · rw [skipBlanks, if_neg hblank, skipBlanks, if_neg hblank]

theorem skipBlanks_of_first (h : skipBlanks s = c :: t) : skipBlanks (c :: t) = skipBlanks s := by
  rw [← h, skipBlanks_skipBlanks]

theorem length_lt_of_skipBlanks (h : skipBlanks s = c :: t) : t.length < s.length := by
  obtain ⟨taken, heq, hc⟩ := takes_blanks h
  have hne : taken ≠ [] := by
    rintro rfl
    have := hc [] List.nil_prefix
    cases this
  have := List.length_pos_iff.mpr hne
  rw [heq, List.length_append]
  omega

/-- The first character of a text pays for one step and for more than the rest needs. -/
theorem exists_steps_of_skipBlanks {steps : Nat} (h : skipBlanks s = c :: t)
    (hsteps : 2 * s.length ≤ steps) : ∃ n, steps = n + 1 ∧ 2 * t.length < n := by
  have := length_lt_of_skipBlanks h
  exact ⟨steps - 1, by omega, by omega⟩

theorem exists_steps_of_lt {steps : Nat} (hsteps : 2 * s.length < steps) :
    ∃ n, steps = n + 1 ∧ 2 * s.length ≤ n :=
  ⟨steps - 1, by omega, by omega⟩

theorem Key.congr {s' : List Char} (h : Key s key rest) (hs : skipBlanks s = skipBlanks s') :
    Key s' key rest := by
  cases h with
  | mk hquote hstring hcolon => exact .mk (hs ▸ hquote) hstring hcolon

theorem Spells.congr {part : Part} {s' : List Char} (h : Spells d s part rest)
    (hs : skipBlanks s = skipBlanks s') : Spells d s' part rest := by
  induction h generalizing s' with
  | scalar hfirst hscalar => exact .scalar (hs ▸ hfirst) hscalar
  | emptyArray hopen hclose => exact .emptyArray (hs ▸ hopen) hclose
  | array hopen hitems _ => exact .array (hs ▸ hopen) hitems
  | emptyObject hopen hclose => exact .emptyObject (hs ▸ hopen) hclose
  | object hopen hmembers _ => exact .object (hs ▸ hopen) hmembers
  | lastItem _ hclose ih => exact .lastItem (ih hs) hclose
  | item _ hcomma hmore ih _ => exact .item (ih hs) hcomma hmore
  | lastMember hkey hv hclose _ => exact .lastMember (hkey.congr hs) hv hclose
  | member hkey hv hcomma hmore _ _ => exact .member (hkey.congr hs) hv hcomma hmore

theorem Spells.of_skipBlanks {part : Part} (h : Spells d (skipBlanks s) part rest) :
    Spells d s part rest :=
  h.congr (skipBlanks_skipBlanks s)

theorem takes_scalar (h : Scalar c s v rest) :
    Takes (fun s rest => Scalar c s v rest) s rest := by
  cases h with
  | null h => exact (takes_readWord h).mono fun _ _ _ => .null
  | yes h => exact (takes_readWord h).mono fun _ _ _ => .yes
  | no h => exact (takes_readWord h).mono fun _ _ _ => .no
  | negative h =>
    cases s with
    | nil => cases h
    | cons c s =>
      apply ((takes_readNumber h).cons c).mono
      rintro _ kept _ ⟨t, rfl, ht⟩
      exact .negative ht
  | number hc h => exact (takes_readNumber h).mono fun _ _ _ => .number hc
  | string h => exact (takes_readString h).mono fun _ _ _ => .string

theorem takes_key (h : Key s key rest) : Takes (fun s rest => Key s key rest) s rest := by
  cases h with
  | mk hquote hstring hcolon =>
    apply ((takes_blanks hquote).comp
      ((takes_readString hstring).comp (takes_blanks hcolon))).mono
    rintro t kept _ ⟨q, hquote, k, hstring, hcolon⟩
    exact .mk hquote hstring hcolon

/-- What a part is spelled by does not depend on how the text goes on behind it. -/
theorem Spells.takes {part : Part} (h : Spells d s part rest) :
    Takes (fun s rest => Spells d s part rest) s rest := by
  induction h with
  | scalar hfirst hscalar =>
    apply ((takes_blanks hfirst).comp (takes_scalar hscalar)).mono
    rintro s kept _ ⟨t, hfirst, hscalar⟩
    exact .scalar hfirst hscalar
  | emptyArray hopen hclose =>
    apply ((takes_blanks hopen).comp (takes_blanks hclose)).mono
    rintro s kept _ ⟨t, hopen, hclose⟩
    exact .emptyArray hopen hclose
  | array hopen _ ih =>
    apply ((takes_blanks hopen).comp ih).mono
    rintro s kept _ ⟨t, hopen, hitems⟩
    exact .array hopen hitems
  | emptyObject hopen hclose =>
    apply ((takes_blanks hopen).comp (takes_blanks hclose)).mono
    rintro s kept _ ⟨t, hopen, hclose⟩
    exact .emptyObject hopen hclose
  | object hopen _ ih =>
    apply ((takes_blanks hopen).comp ih).mono
    rintro s kept _ ⟨t, hopen, hmembers⟩
    exact .object hopen hmembers
  | lastItem _ hclose ih =>
    apply (ih.comp (takes_blanks hclose)).mono
    rintro s kept _ ⟨t, hv, hclose⟩
    exact .lastItem hv hclose
  | item _ hcomma _ ih ihmore =>
    apply (ih.comp ((takes_blanks hcomma).comp ihmore)).mono
    rintro s kept _ ⟨t, hv, more, hcomma, hmore⟩
    exact .item hv hcomma hmore
  | lastMember hkey _ hclose ih =>
    apply ((takes_key hkey).comp (ih.comp (takes_blanks hclose))).mono
    rintro s kept _ ⟨t, hkey, u, hv, hclose⟩
    exact .lastMember hkey hv hclose
  | member hkey _ hcomma _ ih ihmore =>
    apply ((takes_key hkey).comp (ih.comp ((takes_blanks hcomma).comp ihmore))).mono
    rintro s kept _ ⟨t, hkey, u, hv, more, hcomma, hmore⟩
    exact .member hkey hv hcomma hmore

theorem Key.length_lt (h : Key s key rest) : rest.length < s.length := by
  cases h with
  | mk hquote hstring hcolon =>
    have hq := length_lt_of_skipBlanks hquote
    have hk := (takes_readString hstring).length_le
    have hrest := length_lt_of_skipBlanks hcolon
    omega

theorem Spells.length_lt {part : Part} (h : Spells d s part rest) : rest.length < s.length := by
  induction h with
  | scalar hfirst hscalar =>
    have := length_lt_of_skipBlanks hfirst
    have := (takes_scalar hscalar).length_le
    omega
  | emptyArray hopen hclose | emptyObject hopen hclose =>
    have := length_lt_of_skipBlanks hopen
    have := length_lt_of_skipBlanks hclose
    omega
  | array hopen _ ih | object hopen _ ih =>
    have := length_lt_of_skipBlanks hopen
    omega
  | lastItem _ hclose ih =>
    have := length_lt_of_skipBlanks hclose
    omega
  | item _ hcomma _ ih ihmore =>
    have := length_lt_of_skipBlanks hcomma
    omega
  | lastMember hkey _ hclose ih =>
    have := hkey.length_lt
    have := length_lt_of_skipBlanks hclose
    omega
  | member hkey _ hcomma _ ih ihmore =>
    have := hkey.length_lt
    have := length_lt_of_skipBlanks hcomma
    omega

theorem Scalar.opens (h : Scalar c s v rest) : Opens c := by
  cases h <;> simp [Opens, *]

/-- The first character of a value is no closing one. -/
theorem Spells.opens (h : Spells d s (.value v) rest) :
    ∃ c t, skipBlanks s = c :: t ∧ Opens c := by
  cases h with
  | scalar hfirst hscalar => exact ⟨_, _, hfirst, hscalar.opens⟩
  | emptyArray hopen | array hopen => exact ⟨_, _, hopen, by simp [Opens]⟩
  | emptyObject hopen | object hopen => exact ⟨_, _, hopen, by simp [Opens]⟩

theorem Spells.items_open {vs : List Value} (h : Spells d s (.items vs) rest) :
    ∃ c t, skipBlanks s = c :: t ∧ Opens c := by
  cases h with
  | lastItem hv | item hv => exact hv.opens

theorem Spells.members_open {ms : List (String × Value)} (h : Spells d s (.members ms) rest) :
    ∃ q, skipBlanks s = '"' :: q := by
  cases h with
  | lastMember hkey | member hkey =>
    cases hkey with
    | mk hquote => exact ⟨_, hquote⟩

end AccountPortal.Json
