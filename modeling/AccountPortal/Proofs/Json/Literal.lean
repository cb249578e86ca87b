import AccountPortal.Json.Record
import AccountPortal.Proofs.Json.Content

/-!
Values as they are spelled. A literal keeps of an integer its sign and its
magnitude, which may have any number of digits. Every value whose numbers are
integers is written as the text of a literal. Zero with a sign is a literal too,
although it stands for no integer.
-/
namespace AccountPortal.Json

open Decimal

/-- A value without fractions and exponents, as it is spelled. -/
inductive Literal where
  | null
  | bool (b : Bool)
  | integer (negative : Bool) (n : Nat)
  | string (s : String)
  | array (items : List Literal)
  | object (members : List (String × Literal))

namespace Literal

/-- Induction on a literal that goes through the items and members one by one. -/
theorem induct {P : Literal → Prop} (null : P .null) (bool : ∀ b, P (.bool b))
    (integer : ∀ negative n, P (.integer negative n)) (string : ∀ s, P (.string s))
    (array : ∀ items, (∀ l ∈ items, P l) → P (.array items))
    (object : ∀ members, (∀ m ∈ members, P m.2) → P (.object members)) : ∀ l, P l
  | .null => null
  | .bool b => bool b
  | .integer negative n => integer negative n
  | .string s => string s
  | .array items => array items fun l _ => induct null bool integer string array object l
  | .object members =>
    object members fun m _ => induct null bool integer string array object m.2
termination_by l => sizeOf l
decreasing_by
  · have := List.sizeOf_lt_of_mem ‹l ∈ items›
    simp only [Literal.array.sizeOf_spec]
    omega
  · have := List.sizeOf_lt_of_mem ‹m ∈ members›
    have : sizeOf m.2 < sizeOf m := by
      cases m
      simp only [Prod.mk.sizeOf_spec]
      omega
    simp only [Literal.object.sizeOf_spec]
    omega

mutual

/-- The text of a literal, without blanks. -/
def text : Literal → List Char
  | .null => ['n', 'u', 'l', 'l']
  | .bool true => ['t', 'r', 'u', 'e']
  | .bool false => ['f', 'a', 'l', 's', 'e']
  | .integer true n => '-' :: digits n
  | .integer false n => digits n
  | .string s => writeString s
  | .array items => '[' :: itemsText items ++ [']']
  | .object members => '\x7b' :: membersText members ++ ['\x7d']

def itemsText : List Literal → List Char
  | [] => []
  | l :: rest => l.text ++ moreItemsText rest

/-- The text of the items behind another one. -/
def moreItemsText : List Literal → List Char
  | [] => []
  | l :: rest => ',' :: (l.text ++ moreItemsText rest)

def membersText : List (String × Literal) → List Char
  | [] => []
  | (key, l) :: rest =>
    '"' :: (key.toList.flatMap writeChar ++ '"' :: ':' :: (l.text ++ moreMembersText rest))

/-- The text of the members behind another one. -/
def moreMembersText : List (String × Literal) → List Char
  | [] => []
  | (key, l) :: rest =>
    ',' :: '"' ::
      (key.toList.flatMap writeChar ++ '"' :: ':' :: (l.text ++ moreMembersText rest))

end

attribute [local simp] text itemsText moreItemsText membersText moreMembersText

/-- The text of a literal. -/
def compact (l : Literal) : String := String.ofList l.text

theorem moreItemsText_cons (l : Literal) (rest : List Literal) :
    moreItemsText (l :: rest) = ',' :: itemsText (l :: rest) := by
  rw [moreItemsText, itemsText]

theorem moreMembersText_cons (m : String × Literal) (rest : List (String × Literal)) :
    moreMembersText (m :: rest) = ',' :: membersText (m :: rest) := by
  obtain ⟨key, l⟩ := m
  rw [moreMembersText, membersText]

theorem exists_integer_text (negative : Bool) (n : Nat) :
    ∃ c s, (Literal.integer negative n).text = c :: s ∧ Opens c ∧
      ∀ d, isDigit d = false → d ≠ '-' → c ≠ d := by
  cases negative with
  | true => exact ⟨'-', digits n, rfl, by simp [Opens], fun d _ hd => hd.symm⟩
  | false =>
    obtain ⟨c, ds, heq, hdigit, _⟩ := exists_digits_eq_cons n
    have hc : isDigit c = true := hdigit c List.mem_cons_self
    exact ⟨c, ds, heq, Or.inl hc, fun d hd _ => ne_of_isDigit hc hd⟩

/-- The text of a literal begins with a character that is neither blank nor a closing one. -/
theorem exists_text_eq_cons (l : Literal) : ∃ c s, l.text = c :: s ∧ Opens c := by
  cases l with
  | null => exact ⟨'n', _, rfl, by simp [Opens]⟩
  | bool b =>
    cases b with
    | true => exact ⟨'t', _, rfl, by simp [Opens]⟩
    | false => exact ⟨'f', _, rfl, by simp [Opens]⟩
  | integer negative n =>
    obtain ⟨c, s, heq, hc, _⟩ := exists_integer_text negative n
    exact ⟨c, s, heq, hc⟩
  | string s => exact ⟨'"', _, rfl, by simp [Opens]⟩
  | array items => exact ⟨'[', _, rfl, by simp [Opens]⟩
  | object members => exact ⟨'\x7b', _, rfl, by simp [Opens]⟩

theorem exists_itemsText_eq_cons (l : Literal) (rest : List Literal) :
    ∃ c s, itemsText (l :: rest) = c :: s ∧ Opens c := by
  obtain ⟨c, s, heq, hc⟩ := exists_text_eq_cons l
  exact ⟨c, s ++ moreItemsText rest, by rw [itemsText, heq, List.cons_append], hc⟩

theorem text_length_pos (l : Literal) : 0 < l.text.length := by
  obtain ⟨c, s, heq, _⟩ := exists_text_eq_cons l
  simp [heq]

theorem skipBlanks_text (l : Literal) (rest : List Char) :
    skipBlanks (l.text ++ rest) = l.text ++ rest := by
  obtain ⟨c, s, heq, hc⟩ := exists_text_eq_cons l
  rw [heq, List.cons_append, skipBlanks_opens hc]

/-- What follows an item or a member lets a number before it end. -/
theorem endsNumber_moreItemsText (rest : List Literal) (after : List Char) :
    EndsNumber (moreItemsText rest ++ ']' :: after) := by
  cases rest <;> exact endsNumber_cons (by decide)

theorem endsNumber_moreMembersText (rest : List (String × Literal)) (after : List Char) :
    EndsNumber (moreMembersText rest ++ '\x7d' :: after) := by
  cases rest <;> exact endsNumber_cons (by decide)

theorem length_le_moreMembersText (members : List (String × Literal)) :
    members.length ≤ (moreMembersText members).length := by
  induction members with
  | nil => simp
  | cons m members ih =>
    obtain ⟨key, l⟩ := m
    simp only [moreMembersText, List.length_cons, List.length_append]
    omega

/-- The number that an integer literal stands for. -/
def signed (negative : Bool) (n : Nat) : Number :=
  if negative then if n = 0 then .double (.zero true) else .integer (-n)
  else .integer n

mutual

/-- The value that a literal stands for. -/
def value : Literal → Value
  | .null => .null
  | .bool b => .bool b
  | .integer negative n => .number (signed negative n)
  | .string s => .string s
  | .array items => .array (itemsValue items)
  | .object members => .object (membersValue members)

def itemsValue : List Literal → List Value
  | [] => []
  | l :: rest => l.value :: itemsValue rest

def membersValue : List (String × Literal) → List (String × Value)
  | [] => []
  | (key, l) :: rest => (key, l.value) :: membersValue rest

end

attribute [local simp] value itemsValue membersValue

theorem membersValue_eq_map (members : List (String × Literal)) :
    membersValue members = members.map fun m => (m.1, m.2.value) := by
  induction members with
  | nil => rfl
  | cons m rest ih =>
    obtain ⟨key, l⟩ := m
    rw [membersValue, ih, List.map_cons]

theorem value_eq_null {l : Literal} : l.value = .null ↔ l = .null := by
  cases l <;> simp

theorem value_eq_string {l : Literal} {s : String} : l.value = .string s ↔ l = .string s := by
  cases l <;> simp

theorem value_eq_bool {l : Literal} {b : Bool} : l.value = .bool b ↔ l = .bool b := by
  cases l <;> simp

/-- The literal of an integer. Zero with a sign is the literal of none. -/
def ofInt (i : Int) : Literal := .integer (decide (i < 0)) i.natAbs

theorem value_ofInt (i : Int) : (ofInt i).value = .number (.integer i) := by
  rw [ofInt, value, signed]
  by_cases hi : i < 0
  · have habs : -(i.natAbs : Int) = i := by omega
    rw [if_pos (decide_eq_true hi), if_neg (by omega), habs]
  · have habs : (i.natAbs : Int) = i := by omega
    rw [if_neg (by simpa using hi), habs]

theorem text_ofInt (i : Int) : (ofInt i).text = (Value.number (.integer i)).write := by
  by_cases hi : i < 0
  · simp [ofInt, Value.write, Number.write, hi]
  · simp [ofInt, Value.write, Number.write, hi]

theorem value_eq_integer {l : Literal} {i : Int} :
    l.value = .number (.integer i) ↔ l = .ofInt i := by
  constructor
  · intro h
    cases l with
    | integer negative n =>
      rw [value, signed] at h
      cases negative with
      | false =>
        have hi : (n : Int) = i := by simpa using h
        subst hi
        simp [ofInt]
      | true =>
        by_cases hn : n = 0
        · simp [hn] at h
        · have hi : -(n : Int) = i := by simpa [hn] using h
          subst hi
          have hpos : 0 < n := Nat.pos_of_ne_zero hn
          simp [ofInt, hpos]
    | _ => simp at h
  · rintro rfl
    exact value_ofInt i

theorem exists_items {items : List Value}
    (h : ∀ v ∈ items, ∃ l : Literal, l.text = v.write ∧ l.value = v) :
    ∃ ls, itemsText ls = writeItems items ∧ moreItemsText ls = moreItems items ∧
      itemsValue ls = items := by
  induction items with
  | nil => exact ⟨[], rfl, rfl, rfl⟩
  | cons v items ih =>
    obtain ⟨l, htext, hvalue⟩ := h v List.mem_cons_self
    obtain ⟨ls, _, hmore, hvalues⟩ := ih fun w hw => h w (List.mem_cons_of_mem _ hw)
    have hitems : itemsText (l :: ls) = writeItems (v :: items) := by
      rw [itemsText, htext, hmore, writeItems_cons]
    exact ⟨l :: ls, hitems, by rw [moreItemsText_cons, hitems, moreItems],
      by rw [itemsValue, hvalue, hvalues]⟩

theorem exists_members {members : List (String × Value)}
    (h : ∀ m ∈ members, ∃ l : Literal, l.text = m.2.write ∧ l.value = m.2) :
    ∃ ls, membersText ls = writeMembers members ∧ moreMembersText ls = moreMembers members ∧
      membersValue ls = members := by
  induction members with
  | nil => exact ⟨[], rfl, rfl, rfl⟩
  | cons m members ih =>
    obtain ⟨key, v⟩ := m
    obtain ⟨l, htext, hvalue⟩ := h (key, v) List.mem_cons_self
    obtain ⟨ls, _, hmore, hvalues⟩ := ih fun w hw => h w (List.mem_cons_of_mem _ hw)
    have hmembers : membersText ((key, l) :: ls) = writeMembers ((key, v) :: members) := by
      rw [membersText, htext, hmore, writeMembers_cons]
    exact ⟨(key, l) :: ls, hmembers, by rw [moreMembersText_cons, hmembers, moreMembers],
      by rw [membersValue, hvalue, hvalues]⟩

/-- Every value whose numbers are integers has a literal, which is spelled as it is written. -/
theorem exists_of_integral {v : Value} (hint : v.Integral) :
    ∃ l : Literal, l.text = v.write ∧ l.value = v := by
  induction v using Value.induct with
  | null => exact ⟨.null, rfl, rfl⟩
  | bool b => cases b <;> exact ⟨.bool _, rfl, rfl⟩
  | number x =>
    obtain ⟨i, rfl⟩ := hint x (by simp [Value.numbers])
    exact ⟨.ofInt i, text_ofInt i, value_ofInt i⟩
  | string s => exact ⟨.string s, rfl, rfl⟩
  | array items ih =>
    have hitems := Value.integral_array.mp hint
    obtain ⟨ls, htext, _, hvalue⟩ := exists_items fun v hv => ih v hv (hitems v hv)
    exact ⟨.array ls, by rw [text, Value.write, htext], by rw [value, hvalue]⟩
  | object members ih =>
    have hmembers := Value.integral_object.mp hint
    obtain ⟨ls, htext, _, hvalue⟩ := exists_members fun m hm => ih m hm (hmembers m hm)
    exact ⟨.object ls, by rw [text, Value.write, htext], by rw [value, hvalue]⟩

end Literal

end AccountPortal.Json
