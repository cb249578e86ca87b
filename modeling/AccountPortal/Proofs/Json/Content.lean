import AccountPortal.Proofs.Json.Scalar

/-!
What a value holds at any depth: its numbers, the keys of its objects, and how
many arrays and objects are open at once in its text. The text of a value begins
with a character that is neither blank nor a closing one.
-/
namespace AccountPortal.Json

open Decimal

namespace Value

mutual

/-- The numbers in a value, at any depth. -/
def numbers : Value → List Number
  | .number n => [n]
  | .array items => itemsNumbers items
  | .object members => membersNumbers members
  | _ => []

def itemsNumbers : List Value → List Number
  | [] => []
  | v :: rest => numbers v ++ itemsNumbers rest

def membersNumbers : List (String × Value) → List Number
  | [] => []
  | (_, v) :: rest => numbers v ++ membersNumbers rest

end

mutual

/-- The keys of the objects in a value, at any depth. -/
def keys : Value → List String
  | .array items => itemsKeys items
  | .object members => membersKeys members
  | _ => []

def itemsKeys : List Value → List String
  | [] => []
  | v :: rest => keys v ++ itemsKeys rest

def membersKeys : List (String × Value) → List String
  | [] => []
  | (k, v) :: rest => k :: keys v ++ membersKeys rest

end

mutual

/-- How many arrays and objects are open at once in the text of a value. -/
def depth : Value → Nat
  | .array items => itemsDepth items + 1
  | .object members => membersDepth members + 1
  | _ => 0

def itemsDepth : List Value → Nat
  | [] => 0
  | v :: rest => max (depth v) (itemsDepth rest)

def membersDepth : List (String × Value) → Nat
  | [] => 0
  | (_, v) :: rest => max (depth v) (membersDepth rest)

end

/-- No number of the value has a fraction or an exponent. -/
def Integral (v : Value) : Prop := ∀ n ∈ v.numbers, ∃ i, n = .integer i

/-- All numbers of the value are integers that 64 bits hold. -/
def Fits (v : Value) : Prop := ∀ n ∈ v.numbers, ∃ i, n = .integer i ∧ InWord i

theorem Fits.integral {v : Value} (h : v.Fits) : v.Integral := by
  intro n hn
  obtain ⟨i, hi, _⟩ := h n hn
  exact ⟨i, hi⟩

/-- Induction on a value that goes through the items and members one by one. -/
theorem induct {P : Value → Prop} (null : P .null) (bool : ∀ b, P (.bool b))
    (number : ∀ n, P (.number n)) (string : ∀ s, P (.string s))
    (array : ∀ items, (∀ v ∈ items, P v) → P (.array items))
    (object : ∀ members, (∀ m ∈ members, P m.2) → P (.object members)) : ∀ v, P v
  | .null => null
  | .bool b => bool b
  | .number n => number n
  | .string s => string s
  | .array items => array items fun v _ => induct null bool number string array object v
  | .object members =>
    object members fun m _ => induct null bool number string array object m.2
termination_by v => sizeOf v
decreasing_by
  · have := List.sizeOf_lt_of_mem ‹v ∈ items›
    simp only [Value.array.sizeOf_spec]
    omega
  · have := List.sizeOf_lt_of_mem ‹m ∈ members›
    have : sizeOf m.2 < sizeOf m := by
      cases m
      simp only [Prod.mk.sizeOf_spec]
      omega
    simp only [Value.object.sizeOf_spec]
    omega

section Members

variable {items : List Value} {members : List (String × Value)}

theorem mem_itemsNumbers {n : Number} :
    n ∈ itemsNumbers items ↔ ∃ v ∈ items, n ∈ v.numbers := by
  induction items with
  | nil => simp [itemsNumbers]
  | cons v rest ih => simp [itemsNumbers, ih]

theorem mem_membersNumbers {n : Number} :
    n ∈ membersNumbers members ↔ ∃ m ∈ members, n ∈ m.2.numbers := by
  induction members with
  | nil => simp [membersNumbers]
  | cons m rest ih =>
    obtain ⟨k, v⟩ := m
    simp [membersNumbers, ih]

theorem mem_itemsKeys {k : String} : k ∈ itemsKeys items ↔ ∃ v ∈ items, k ∈ v.keys := by
  induction items with
  | nil => simp [itemsKeys]
  | cons v rest ih => simp [itemsKeys, ih]

theorem mem_membersKeys {k : String} :
    k ∈ membersKeys members ↔ ∃ m ∈ members, k = m.1 ∨ k ∈ m.2.keys := by
  induction members with
  | nil => simp [membersKeys]
  | cons m rest ih =>
    obtain ⟨key, v⟩ := m
    simp [membersKeys, ih, or_assoc]

theorem forall_numbers_array {P : Number → Prop} :
    (∀ n ∈ (Value.array items).numbers, P n) ↔ ∀ v ∈ items, ∀ n ∈ v.numbers, P n := by
  simp only [numbers, mem_itemsNumbers]
  constructor
  · exact fun h v hv n hn => h n ⟨v, hv, hn⟩
  · rintro h n ⟨v, hv, hn⟩
    exact h v hv n hn

theorem forall_numbers_object {P : Number → Prop} :
    (∀ n ∈ (Value.object members).numbers, P n) ↔ ∀ m ∈ members, ∀ n ∈ m.2.numbers, P n := by
  simp only [numbers, mem_membersNumbers]
  constructor
  · exact fun h m hm n hn => h n ⟨m, hm, hn⟩
  · rintro h n ⟨m, hm, hn⟩
    exact h m hm n hn

theorem integral_array : (Value.array items).Integral ↔ ∀ v ∈ items, v.Integral :=
  forall_numbers_array

theorem integral_object : (Value.object members).Integral ↔ ∀ m ∈ members, m.2.Integral :=
  forall_numbers_object

theorem fits_array : (Value.array items).Fits ↔ ∀ v ∈ items, v.Fits :=
  forall_numbers_array

theorem fits_object : (Value.object members).Fits ↔ ∀ m ∈ members, m.2.Fits :=
  forall_numbers_object

theorem not_mem_keys_array {k : String} :
    k ∉ (Value.array items).keys ↔ ∀ v ∈ items, k ∉ v.keys := by
  simp only [keys, mem_itemsKeys, not_exists, not_and]

theorem not_mem_keys_object {k : String} :
    k ∉ (Value.object members).keys ↔ ∀ m ∈ members, k ≠ m.1 ∧ k ∉ m.2.keys := by
  simp only [keys, mem_membersKeys, not_exists, not_and, not_or]

end Members

end Value

/-- What is written after an item, up to the closing bracket. -/
def moreItems : List Value → List Char
  | [] => []
  | v :: rest => ',' :: writeItems (v :: rest)

/-- What is written after a member, up to the closing brace. -/
def moreMembers : List (String × Value) → List Char
  | [] => []
  | m :: rest => ',' :: writeMembers (m :: rest)

theorem writeItems_cons (v : Value) (rest : List Value) :
    writeItems (v :: rest) = v.write ++ moreItems rest := by
  cases rest with
  | nil => simp [writeItems, moreItems]
  | cons w rest => rfl

theorem writeMembers_cons (key : String) (v : Value) (rest : List (String × Value)) :
    writeMembers ((key, v) :: rest) =
      '"' :: (key.toList.flatMap writeChar ++ '"' :: ':' :: (v.write ++ moreMembers rest)) := by
  cases rest with
  | nil => simp [writeMembers, moreMembers, writeString]
  | cons m rest => simp [writeMembers, moreMembers, writeString]

theorem ne_of_isDigit {c d : Char} (hc : isDigit c = true) (hd : isDigit d = false) : c ≠ d := by
  rintro rfl
  exact Bool.false_ne_true (hd.symm.trans hc)

theorem moreMembers_cons (key : String) (v : Value) (rest : List (String × Value)) :
    moreMembers ((key, v) :: rest) =
      ',' :: '"' ::
        (key.toList.flatMap writeChar ++ '"' :: ':' :: (v.write ++ moreMembers rest)) := by
  rw [moreMembers, writeMembers_cons]

/-- The first characters of values. -/
def Opens (c : Char) : Prop :=
  isDigit c = true ∨ c ∈ ['n', 't', 'f', '-', '"', '[', '\x7b']

/-- An integer begins with its sign or a digit. -/
theorem exists_write_integer (i : Int) :
    ∃ c s, (Value.number (.integer i)).write = c :: s ∧ Opens c := by
  by_cases h : i < 0
  · exact ⟨'-', digits i.natAbs, by simp [Value.write, Number.write, h], by simp [Opens]⟩
  · obtain ⟨c, ds, heq, hdigit, _⟩ := exists_digits_eq_cons i.natAbs
    exact ⟨c, ds, by simp [Value.write, Number.write, h, heq], Or.inl (hdigit c List.mem_cons_self)⟩

theorem exists_write_eq_cons {v : Value} (hv : v.Integral) : ∃ c s, v.write = c :: s ∧ Opens c := by
  cases v with
  | null => exact ⟨'n', _, rfl, by simp [Opens]⟩
  | bool b =>
    cases b with
    | true => exact ⟨'t', _, rfl, by simp [Opens]⟩
    | false => exact ⟨'f', _, rfl, by simp [Opens]⟩
  | number n =>
    obtain ⟨i, rfl⟩ := hv n (by simp [Value.numbers])
    exact exists_write_integer i
  | string s => exact ⟨'"', _, rfl, by simp [Opens]⟩
  | array items => exact ⟨'[', _, rfl, by simp [Opens]⟩
  | object members => exact ⟨'\x7b', _, rfl, by simp [Opens]⟩

theorem Opens.ne {c : Char} (h : Opens c) (d : Char)
    (hd : d ∈ [' ', '\n', '\t', '\r', ',', ']']) : c ≠ d := by
  rintro rfl
  simp only [List.mem_cons, List.not_mem_nil, or_false] at hd
  rcases hd with rfl | rfl | rfl | rfl | rfl | rfl <;> revert h <;> simp [Opens, isDigit]

theorem skipBlanks_opens {c : Char} (h : Opens c) (s : List Char) :
    skipBlanks (c :: s) = c :: s := by
  simp [skipBlanks, h.ne ' ', h.ne '\n', h.ne '\t', h.ne '\r']

theorem exists_writeItems_eq_cons {v : Value} (hv : v.Integral) (items : List Value) :
    ∃ c s, writeItems (v :: items) = c :: s ∧ Opens c := by
  obtain ⟨c, s, heq, hc⟩ := exists_write_eq_cons hv
  exact ⟨c, s ++ moreItems items, by rw [writeItems_cons, heq, List.cons_append], hc⟩

theorem write_length_pos {v : Value} (hv : v.Integral) : 0 < v.write.length := by
  obtain ⟨c, s, heq, _⟩ := exists_write_eq_cons hv
  simp [heq]

/-- What follows a member lets a number before it end. -/
theorem endsNumber_moreMembers (rest : List (String × Value)) (after : List Char) :
    EndsNumber (moreMembers rest ++ '\x7d' :: after) := by
  cases rest <;> exact endsNumber_cons (by decide)

end AccountPortal.Json
