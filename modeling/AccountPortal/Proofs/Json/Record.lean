import AccountPortal.Proofs.Json.Agreement
import AccountPortal.Proofs.Json.RoundTrip
import AccountPortal.Proofs.Json.Skip

/-!
Literals spell the values that they stand for, whatever follows them, so long as it
does not go on with a number. What they stand for may be a number that no reader
makes of their digits, but then it is no integer of 64 bits either.
-/
namespace AccountPortal.Json

open Decimal Literal

/-- Reading a literal comes to the same as taking its value. -/
def Shape.Agrees {α : Type} (shape : Shape α) : Prop :=
  ∀ (l : Literal) (rest : List Char), EndsNumber rest →
    (shape.read (l.text ++ rest)).toOption = (shape.ofTree? l.value).map (·, rest)

/-- A text begins with a literal of the value. -/
def LiteralText (s : List Char) (v : Value) (rest : List Char) : Prop :=
  ∃ l : Literal, s = l.text ++ rest ∧ l.value = v ∧ EndsNumber rest

namespace Shape

theorem asInt64_readScaled (negative : Bool) (m : Nat) (k : Int) (rest : List Char) :
    ∃ f, asInt64 (readScaled negative m k rest) = .error f := by
  unfold readScaled
  split
  · exact ⟨_, rfl⟩
  · exact ⟨_, rfl⟩

theorem readInt64_integer (negative : Bool) (n : Nat) (rest : List Char) :
    readInt64 ((Literal.integer negative n).text ++ rest) =
      asInt64 (readNumber negative (digits n ++ rest)) := by
  cases negative with
  | true => simp [readInt64, Literal.text, skipBlanks]
  | false =>
    obtain ⟨c, ds, heq, hdigit, _⟩ := exists_digits_eq_cons n
    have hc : isDigit c = true := hdigit c List.mem_cons_self
    simp [readInt64, Literal.text, heq, skipBlanks_opens (Or.inl hc), hc,
      ne_of_isDigit hc (rfl : isDigit '-' = false)]

theorem ofTree?_int64_eq_some {v : Value} {i : Int} :
    Shape.int64.ofTree? v = some i ↔ v = .number (.integer i) ∧ isInt64 i = true := by
  constructor
  · intro h
    cases v with
    | number x =>
      cases x with
      | integer j =>
        obtain ⟨hj, hi⟩ := Option.ite_none_right_eq_some.mp h
        obtain rfl := Option.some.inj hi
        exact ⟨rfl, hj⟩
      | double x => contradiction
    | _ => contradiction
  · rintro ⟨rfl, hi⟩
    exact if_pos hi

/-- No integer of 64 bits is a zero with a sign or exceeds the bounds. -/
theorem ofTree?_int64_eq_none {negative : Bool} {n : Nat}
    (h : significandBound ≤ n ∨ negative = true ∧ ¬ (0 < n ∧ n ≤ Nat.pow 2 63)) :
    Shape.int64.ofTree? (Literal.integer negative n).value = none := by
  rw [Option.eq_none_iff_forall_ne_some]
  intro i hi
  obtain ⟨hvalue, hrange⟩ := ofTree?_int64_eq_some.mp hi
  obtain ⟨hsign, hn⟩ := Literal.integer.inj (value_eq_integer.mp hvalue)
  have hpow : Nat.pow 2 63 = 0x8000000000000000 := rfl
  have hbound : significandBound = 0x10000000000000000 := rfl
  simp only [isInt64, Bool.and_eq_true, decide_eq_true_eq] at hrange
  rcases h with h | ⟨rfl, h⟩
  · omega
  · have hneg : i < 0 := of_decide_eq_true hsign.symm
    omega

theorem asInt64_readNumber (negative : Bool) (n : Nat) {rest : List Char} (hend : EndsNumber rest) :
    (asInt64 (readNumber negative (digits n ++ rest))).toOption =
      (Shape.int64.ofTree? (Literal.integer negative n).value).map (·, rest) := by
  -- Digits that stay below the bound are an integer; of more digits only a double is made.
  by_cases hbound : n < significandBound
  · rw [readNumber_digits negative hbound hend, signedInteger]
    cases negative with
    | false =>
      simp only [Bool.false_eq_true, if_false, asInt64, Shape.int64, value, signed]
      split <;> rfl
    | true =>
      by_cases hrange : 0 < n ∧ n ≤ Nat.pow 2 63
      · have hn : n ≠ 0 := by omega
        simp only [if_true, hrange, and_self, asInt64, Shape.int64, value, signed, if_neg hn]
        split <;> rfl
      · obtain ⟨f, hfault⟩ := asInt64_readScaled true n 0 rest
        rw [if_pos rfl, if_neg hrange, hfault, ofTree?_int64_eq_none (Or.inr ⟨rfl, hrange⟩)]
        rfl
  · have hwide := Nat.le_of_not_lt hbound
    obtain ⟨m, k, hread⟩ := readNumber_digits_wide negative hwide hend
    obtain ⟨f, hfault⟩ := asInt64_readScaled negative m k rest
    rw [hread, hfault, ofTree?_int64_eq_none (Or.inl hwide)]
    rfl

theorem readInt64_text (negative : Bool) (n : Nat) {rest : List Char} (hend : EndsNumber rest) :
    Shape.int64.AgreesAt ((Literal.integer negative n).text ++ rest)
      (Literal.integer negative n).value rest := by
  have hread : Shape.int64.read ((Literal.integer negative n).text ++ rest) =
      asInt64 (readNumber negative (digits n ++ rest)) := readInt64_integer negative n rest
  rw [Shape.AgreesAt, hread, asInt64_readNumber negative n hend]

end Shape

/-- What is left of the text of an array once `index` items have been read. -/
def itemsFrom (index : Nat) (items : List Literal) : List Char :=
  if index = 0 then itemsText items else moreItemsText items

theorem readNextItem_nil (index : Nat) (rest : List Char) :
    readNextItem index (itemsFrom index [] ++ ']' :: rest) = .ok (false, rest) := by
  unfold readNextItem itemsFrom
  split
  · exact readItemStart_close rest
  · exact readItemEnd_close rest

theorem readNextItem_cons (index : Nat) (l : Literal) (items : List Literal) (rest : List Char) :
    readNextItem index (itemsFrom index (l :: items) ++ ']' :: rest) =
      .ok (true, l.text ++ (moreItemsText items ++ ']' :: rest)) := by
  obtain ⟨c, s, heq, hc⟩ := exists_text_eq_cons l
  unfold readNextItem itemsFrom
  split
  · rw [itemsText, heq, List.append_assoc, List.cons_append, readItemStart_opens hc]
  · rw [moreItemsText, heq, List.cons_append, List.cons_append, List.cons_append,
      readItemEnd_comma hc, List.append_assoc, List.cons_append]

theorem closeItems_nil (index : Nat) (rest : List Char) :
    RecordForm.closeItems (itemsFrom index [] ++ ']' :: rest) = .ok ((), rest) := by
  unfold itemsFrom
  split <;> simp [itemsText, moreItemsText, RecordForm.closeItems, skipBlanks]

theorem closeItems_cons (index : Nat) (l : Literal) (items : List Literal) (rest : List Char) :
    ∃ f, RecordForm.closeItems (itemsFrom index (l :: items) ++ ']' :: rest) = .error f := by
  obtain ⟨c, s, heq, hc⟩ := exists_itemsText_eq_cons l items
  unfold itemsFrom
  split
  · rw [heq, List.cons_append]
    exact closeItems_error_of_opens (skipBlanks_opens hc _) hc
  · have hcomma (t : List Char) : skipBlanks (',' :: t) = ',' :: t := by simp [skipBlanks]
    rw [moreItemsText_cons, List.cons_append]
    exact closeItems_error_of_comma (hcomma _)

theorem itemsAhead_text (rest : List Char) (items : List Literal) (index : Nat) :
    ItemsAhead LiteralText index (itemsFrom index items ++ ']' :: rest) (itemsValue items)
      rest := by
  induction items generalizing index with
  | nil => exact .done (readNextItem_nil index rest) (closeItems_nil index rest)
  | cons l items ih =>
    have hmore := ih (index + 1)
    rw [itemsFrom, if_neg (Nat.succ_ne_zero index)] at hmore
    exact .more (readNextItem_cons index l items rest) (closeItems_cons index l items rest)
      ⟨l, rfl, rfl, endsNumber_moreItemsText items rest⟩ hmore

theorem membersAhead_text (rest : List Char) (key : String) (l : Literal)
    (members : List (String × Literal)) :
    MembersAhead LiteralText (key.toList.flatMap writeChar ++
        '"' :: ':' :: (l.text ++ (moreMembersText members ++ '\x7d' :: rest)))
      (membersValue ((key, l) :: members)) rest := by
  have hkey (key : String) (s : List Char) :
      ReadsKey (key.toList.flatMap writeChar ++ '"' :: ':' :: s) key s :=
    ⟨_, _, readString_write _ _, readColon_colon _, String.ofList_toList⟩
  induction members generalizing key l with
  | nil =>
    exact .last (hkey key _) ⟨l, rfl, rfl, endsNumber_moreMembersText [] rest⟩
      (readMemberEnd_close rest)
  | cons m members ih =>
    obtain ⟨next, k⟩ := m
    refine .more (hkey key _) ⟨l, rfl, rfl, endsNumber_moreMembersText _ rest⟩ ?_ (ih next k)
    simp [moreMembersText, readMemberEnd_comma]

theorem exists_integer_text_eq_cons (negative : Bool) (n : Nat) (rest : List Char) :
    ∃ c t, (Literal.integer negative n).text ++ rest = c :: t ∧ (c = '-' ∨ isDigit c = true) := by
  cases negative with
  | true => exact ⟨'-', _, rfl, Or.inl rfl⟩
  | false =>
    obtain ⟨c, ds, heq, hdigit, _⟩ := exists_digits_eq_cons n
    exact ⟨c, ds ++ rest, by rw [text, heq, List.cons_append],
      Or.inr (hdigit c List.mem_cons_self)⟩

/-- An object is closed at once, or its first key and then its members follow. -/
theorem members_text (rest : List Char) (members : List (String × Literal)) :
    (membersValue members = [] ∧
      readMemberStart (membersText members ++ '\x7d' :: rest) = .ok (false, rest)) ∨
    ∃ q, readMemberStart (membersText members ++ '\x7d' :: rest) = .ok (true, q) ∧
      (membersValue members).length ≤ q.length ∧
      MembersAhead LiteralText q (membersValue members) rest := by
  cases members with
  | nil => exact Or.inl ⟨rfl, readMemberStart_close rest⟩
  | cons m members =>
    obtain ⟨key, l⟩ := m
    have hcount := length_le_moreMembersText members
    refine Or.inr ⟨key.toList.flatMap writeChar ++
      '"' :: ':' :: (l.text ++ (moreMembersText members ++ '\x7d' :: rest)), ?_, ?_,
      membersAhead_text rest key l members⟩
    · simp [membersText, readMemberStart_quote]
    · simp only [membersValue_eq_map, List.length_map, List.length_cons, List.length_append]
      omega

/-- Every reader finds what it looks for in the text of a literal. -/
theorem literal_spelling : Spelling LiteralText where
  blanks := by
    rintro s v rest ⟨l, rfl, hvalue, hend⟩
    exact ⟨l, skipBlanks_text l rest, hvalue, hend⟩
  null := by
    rintro s rest ⟨l, rfl, hvalue, _⟩
    obtain rfl := value_eq_null.mp hvalue
    exact ⟨_, skipBlanks_text .null rest, by simp [readNull, readWord]⟩
  yes := by
    rintro s rest ⟨l, rfl, hvalue, _⟩
    obtain rfl := value_eq_bool.mp hvalue
    exact ⟨_, skipBlanks_text (.bool true) rest, by simp [readTrue, readWord]⟩
  no := by
    rintro s rest ⟨l, rfl, hvalue, _⟩
    obtain rfl := value_eq_bool.mp hvalue
    exact ⟨_, skipBlanks_text (.bool false) rest, by simp [readFalse, readWord]⟩
  number := by
    rintro s n rest ⟨l, rfl, hvalue, hend⟩
    cases l with
    | integer negative m =>
      refine ⟨hvalue ▸ Shape.readInt64_text negative m hend, ?_⟩
      rw [skipBlanks_text]
      exact exists_integer_text_eq_cons negative m rest
    | _ => simp [value] at hvalue
  string := by
    rintro s x rest ⟨l, rfl, hvalue, _⟩
    obtain rfl := value_eq_string.mp hvalue
    exact ⟨x.toList.flatMap writeChar ++ '"' :: rest, x.toList,
      by simp [text, writeString, skipBlanks], readString_write x.toList rest,
      String.ofList_toList⟩
  array := by
    rintro s vs rest ⟨l, rfl, hvalue, _⟩
    cases l with
    | array items =>
      obtain rfl := Value.array.inj hvalue
      exact ⟨itemsText items ++ ']' :: rest, by simp [text, skipBlanks],
        itemsAhead_text rest items 0⟩
    | _ => simp [value] at hvalue
  object := by
    rintro s ms rest ⟨l, rfl, hvalue, _⟩
    cases l with
    | object members =>
      obtain rfl := Value.object.inj hvalue
      exact ⟨membersText members ++ '\x7d' :: rest, by simp [text, skipBlanks],
        members_text rest members⟩
    | _ => simp [value] at hvalue
  skipped := by
    rintro s v rest ⟨l, rfl, _, hend⟩
    exact skipValue_text l hend

namespace Shape

variable {α : Type} {shape : Shape α}

theorem AgreesOn.agrees (h : shape.AgreesOn LiteralText) : shape.Agrees :=
  fun l _ hend => h ⟨l, rfl, rfl, hend⟩

/-- Decoding a literal comes to the same as taking its value. -/
theorem Agrees.decode_literal (h : shape.Agrees) (l : Literal) {a : α} :
    Json.decode shape.read l.compact = .ok a ↔ shape.ofTree? l.value = some a := by
  have hread : shape.AgreesAt l.compact.toList l.value [] := by
    rw [Literal.compact, String.toList_ofList, ← List.append_nil l.text]
    exact h l [] endsNumber_nil
  exact hread.decode_eq_ok_iff rfl

/-- Decoding the text of a value comes to the same as taking the value. -/
theorem Agrees.decode_compact (h : shape.Agrees) {v : Value} (hv : v.Integral) {a : α} :
    Json.decode shape.read v.compact = .ok a ↔ shape.ofTree? v = some a := by
  obtain ⟨l, htext, rfl⟩ := Literal.exists_of_integral hv
  rw [Value.compact, ← htext]
  exact h.decode_literal l

end Shape

end AccountPortal.Json
