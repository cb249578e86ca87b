import AccountPortal.Json.Reader
import AccountPortal.Proofs.Json.Content

/-!
A written value is read back as it was. Its integers must fit 64 bits, and no
more arrays and objects may be open at once than the reader allows; a free-form
reader must not meet the key under which it expects another text.
-/
namespace AccountPortal.Json

/-- The value has no key that the reader would take for something else. -/
def Value.Plain (freeForm : Bool) (v : Value) : Prop := freeForm = true → embeddedKey ∉ v.keys

/-- A value is read back within its own depth, in as many steps as its text pays for. -/
def ReadsBack (freeForm : Bool) (v : Value) : Prop :=
  ∀ steps depth rest, EndsNumber rest → v.depth ≤ depth → 2 * v.write.length ≤ steps →
    readValueIn freeForm steps depth (v.write ++ rest) = .ok (v, rest)

variable {freeForm : Bool}

theorem ReadsBack.of_succ {v : Value} (hint : v.Integral)
    (h : ∀ steps depth rest, EndsNumber rest → v.depth ≤ depth → 2 * v.write.length ≤ steps + 1 →
      readValueIn freeForm (steps + 1) depth (v.write ++ rest) = .ok (v, rest)) :
    ReadsBack freeForm v := by
  intro steps depth rest hend hdepth hsteps
  have hpos := write_length_pos hint
  obtain ⟨n, rfl⟩ : ∃ n, steps = n + 1 := ⟨steps - 1, by omega⟩
  exact h n depth rest hend hdepth hsteps

theorem readValueIn_digit {c : Char} (hc : isDigit c = true) (steps depth : Nat) (s : List Char) :
    readValueIn freeForm (steps + 1) depth (c :: s) =
      (readNumber false (c :: s)).map fun (n, rest) => (.number n, rest) := by
  have hne (d : Char) (hd : isDigit d = false) : c ≠ d := ne_of_isDigit hc hd
  simp [readValueIn, skipBlanks_opens (Or.inl hc), hc, hne 'n' rfl, hne 't' rfl, hne 'f' rfl,
    hne '-' rfl, hne '"' rfl, hne '[' rfl, hne '\x7b' rfl]

theorem readValueIn_integer {i : Int} (hi : InWord i) (steps depth : Nat) {rest : List Char}
    (hend : EndsNumber rest) :
    readValueIn freeForm (steps + 1) depth ((Value.number (.integer i)).write ++ rest) =
      .ok (.number (.integer i), rest) := by
  have hread := readNumber_integer hi hend
  by_cases h : i < 0
  · rw [decide_eq_true h] at hread
    simp [Value.write, Number.write, h, readValueIn, skipBlanks, hread, Except.map]
  · obtain ⟨c, ds, heq, hdigit, _⟩ := exists_digits_eq_cons i.natAbs
    rw [decide_eq_false h, heq, List.cons_append] at hread
    simp [Value.write, Number.write, h, heq, readValueIn_digit (hdigit c List.mem_cons_self),
      hread, Except.map]

theorem readItemStart_of_opens {c : Char} {s t : List Char} (hfirst : skipBlanks s = c :: t)
    (hc : Opens c) : readItemStart s = .ok (true, c :: t) := by
  simp [readItemStart, hfirst, hc.ne ']']

theorem readItemStart_opens {c : Char} (hc : Opens c) (s : List Char) :
    readItemStart (c :: s) = .ok (true, c :: s) :=
  readItemStart_of_opens (skipBlanks_opens hc s) hc

theorem readItemStart_close (rest : List Char) :
    readItemStart (']' :: rest) = .ok (false, rest) := by
  simp [readItemStart, skipBlanks]

theorem readItemEnd_close (rest : List Char) : readItemEnd (']' :: rest) = .ok (false, rest) := by
  simp [readItemEnd, skipBlanks]

theorem readItemEnd_of_comma {c : Char} {s t rest : List Char} (hcomma : skipBlanks s = ',' :: t)
    (hfirst : skipBlanks t = c :: rest) (hc : Opens c) :
    readItemEnd s = .ok (true, c :: rest) := by
  simp [readItemEnd, hcomma, hfirst, hc.ne ']']

theorem readItemEnd_comma {c : Char} (hc : Opens c) (s : List Char) :
    readItemEnd (',' :: c :: s) = .ok (true, c :: s) :=
  readItemEnd_of_comma (by simp [skipBlanks]) (skipBlanks_opens hc s) hc

theorem readItemsIn_write (rest : List Char) (v : Value) (items : List Value)
    (h : ∀ w ∈ v :: items, ReadsBack freeForm w) (hint : ∀ w ∈ v :: items, w.Integral)
    (steps depth : Nat) (hdepth : Value.itemsDepth (v :: items) ≤ depth)
    (hsteps : 2 * (writeItems (v :: items)).length < steps) :
    readItemsIn freeForm steps depth (writeItems (v :: items) ++ ']' :: rest) =
      .ok (v :: items, rest) := by
  induction items generalizing v steps with
  | nil =>
    obtain ⟨n, rfl⟩ : ∃ n, steps = n + 1 := ⟨steps - 1, by omega⟩
    have hv : ReadsBack freeForm v := h v List.mem_cons_self
    have hread := hv n depth (']' :: rest) (endsNumber_cons (by decide))
      (by simp only [Value.itemsDepth] at hdepth; omega)
      (by simp only [writeItems] at hsteps; omega)
    simp [readItemsIn, writeItems, hread, readItemEnd_close]
  | cons w items ih =>
    obtain ⟨n, rfl⟩ : ∃ n, steps = n + 1 := ⟨steps - 1, by omega⟩
    have hv : ReadsBack freeForm v := h v List.mem_cons_self
    rw [writeItems_cons, List.length_append, moreItems, List.length_cons] at hsteps
    rw [Value.itemsDepth] at hdepth
    have hread := hv n depth (',' :: (writeItems (w :: items) ++ ']' :: rest))
      (endsNumber_cons (by decide)) (by omega) (by omega)
    have hrest := ih w (fun u hu => h u (List.mem_cons_of_mem _ hu))
      (fun u hu => hint u (List.mem_cons_of_mem _ hu)) n (by omega) (by omega)
    obtain ⟨c, s, heq, hc⟩ := exists_writeItems_eq_cons (hint w (by simp)) items
    rw [heq, List.cons_append] at hread hrest
    simp [readItemsIn, writeItems_cons v, moreItems, heq, hread, readItemEnd_comma hc, hrest,
      Except.map]

theorem readMemberStart_close (rest : List Char) :
    readMemberStart ('\x7d' :: rest) = .ok (false, rest) := by
  simp [readMemberStart, skipBlanks]

theorem readMemberStart_quote (s : List Char) : readMemberStart ('"' :: s) = .ok (true, s) := by
  simp [readMemberStart, skipBlanks]

theorem readMemberEnd_close (rest : List Char) :
    readMemberEnd ('\x7d' :: rest) = .ok (false, rest) := by
  simp [readMemberEnd, skipBlanks]

theorem readMemberEnd_comma (s : List Char) : readMemberEnd (',' :: '"' :: s) = .ok (true, s) := by
  simp [readMemberEnd, skipBlanks]

theorem readColon_colon (s : List Char) : readColon (':' :: s) = .ok ((), s) := by
  simp [readColon, skipBlanks]

theorem readMembersIn_write (rest : List Char) (key : String) (v : Value)
    (members : List (String × Value)) (h : ∀ x ∈ (key, v) :: members, ReadsBack freeForm x.2)
    (steps depth : Nat) (hdepth : Value.membersDepth ((key, v) :: members) ≤ depth)
    (hsteps : 2 * (v.write.length + (moreMembers members).length) < steps) :
    readMembersIn freeForm steps depth key (v.write ++ (moreMembers members ++ '\x7d' :: rest)) =
      .ok ((key, v) :: members, rest) := by
  induction members generalizing key v steps with
  | nil =>
    obtain ⟨n, rfl⟩ : ∃ n, steps = n + 1 := ⟨steps - 1, by omega⟩
    have hv : ReadsBack freeForm v := h (key, v) List.mem_cons_self
    have hread := hv n depth ('\x7d' :: rest) (endsNumber_cons (by decide))
      (by simp only [Value.membersDepth] at hdepth; omega) (by omega)
    simp [readMembersIn, moreMembers, hread, readMemberEnd_close]
  | cons m members ih =>
    obtain ⟨n, rfl⟩ : ∃ n, steps = n + 1 := ⟨steps - 1, by omega⟩
    obtain ⟨next, w⟩ := m
    have hv : ReadsBack freeForm v := h (key, v) List.mem_cons_self
    rw [Value.membersDepth] at hdepth
    simp only [moreMembers_cons, List.length_cons, List.length_append] at hsteps
    have hread := hv n depth (moreMembers ((next, w) :: members) ++ '\x7d' :: rest)
      (endsNumber_moreMembers _ rest) (by omega) (by omega)
    have hrest := ih next w (fun x hx => h x (List.mem_cons_of_mem _ hx)) n (by omega) (by omega)
    rw [readMembersIn, hread]
    simp [moreMembers_cons, readMemberEnd_comma, readString_write, readColon_colon, hrest,
      Except.map]

theorem Value.plain_array {items : List Value} :
    (Value.array items).Plain freeForm ↔ ∀ v ∈ items, v.Plain freeForm := by
  simp only [Value.Plain, Value.not_mem_keys_array]
  exact ⟨fun h v hv hfree => h hfree v hv, fun h hfree v hv => h v hv hfree⟩

theorem Value.plain_object {members : List (String × Value)} :
    (Value.object members).Plain freeForm ↔
      ∀ m ∈ members, (freeForm = true → m.1 ≠ embeddedKey) ∧ m.2.Plain freeForm := by
  simp only [Value.Plain, Value.not_mem_keys_object]
  constructor
  · exact fun h m hm => ⟨fun hfree => (h hfree m hm).1.symm, fun hfree => (h hfree m hm).2⟩
  · exact fun h hfree m hm => ⟨((h m hm).1 hfree).symm, (h m hm).2 hfree⟩

theorem readsBack_of_fits {v : Value} (hfits : v.Fits) (hplain : v.Plain freeForm) :
    ReadsBack freeForm v := by
  induction v using Value.induct with
  | null =>
    apply ReadsBack.of_succ hfits.integral
    intro n depth rest _ _ _
    simp [Value.write, readValueIn, skipBlanks, readNull, readWord, Except.map]
  | bool b =>
    apply ReadsBack.of_succ hfits.integral
    intro n depth rest _ _ _
    cases b with
    | true => simp [Value.write, readValueIn, skipBlanks, readTrue, readWord, Except.map]
    | false => simp [Value.write, readValueIn, skipBlanks, readFalse, readWord, Except.map]
  | number x =>
    apply ReadsBack.of_succ hfits.integral
    intro n depth rest hend _ _
    obtain ⟨i, rfl, hi⟩ := hfits x (by simp [Value.numbers])
    exact readValueIn_integer hi n depth hend
  | string s =>
    apply ReadsBack.of_succ hfits.integral
    intro n depth rest _ _ _
    simp [Value.write, writeString, readValueIn, skipBlanks, readString_write, Except.map]
  | array items ih =>
    apply ReadsBack.of_succ hfits.integral
    intro n depth rest _ hdepth hsteps
    rw [Value.depth] at hdepth
    obtain ⟨depth, rfl⟩ : ∃ d, depth = d + 1 := ⟨depth - 1, by omega⟩
    have hitems := Value.integral_array.mp hfits.integral
    cases items with
    | nil => simp [Value.write, writeItems, readValueIn, skipBlanks, readItemStart_close]
    | cons v items =>
      have hback (w : Value) (hw : w ∈ v :: items) : ReadsBack freeForm w :=
        ih w hw (Value.fits_array.mp hfits w hw) (Value.plain_array.mp hplain w hw)
      have hread := readItemsIn_write rest v items hback hitems n depth (by omega) (by
        simp only [Value.write, List.length_cons, List.length_append] at hsteps
        omega)
      obtain ⟨c, s, heq, hc⟩ := exists_writeItems_eq_cons (hitems v List.mem_cons_self) items
      rw [heq, List.cons_append] at hread
      simp [Value.write, heq, readValueIn, skipBlanks, readItemStart_opens hc, hread, Except.map]
  | object members ih =>
    apply ReadsBack.of_succ hfits.integral
    intro n depth rest _ hdepth hsteps
    rw [Value.depth] at hdepth
    obtain ⟨depth, rfl⟩ : ∃ d, depth = d + 1 := ⟨depth - 1, by omega⟩
    cases members with
    | nil => simp [Value.write, writeMembers, readValueIn, skipBlanks, readMemberStart_close]
    | cons m members =>
      obtain ⟨key, v⟩ := m
      have hback (x : String × Value) (hx : x ∈ (key, v) :: members) : ReadsBack freeForm x.2 :=
        ih x hx (Value.fits_object.mp hfits x hx) (Value.plain_object.mp hplain x hx).2
      have hkey : ¬ (freeForm = true ∧ key = embeddedKey) := fun h =>
        (Value.plain_object.mp hplain (key, v) List.mem_cons_self).1 h.1 h.2
      have hread := readMembersIn_write rest key v members hback n depth (by omega) (by
        simp only [Value.write, writeMembers_cons, List.length_cons, List.length_append] at hsteps
        omega)
      simp only [Value.write, writeMembers_cons, List.cons_append, List.append_assoc,
        List.nil_append]
      simp [readValueIn, skipBlanks, readMemberStart_quote, readString_write, readColon_colon,
        hkey, hread, Except.map]

/-- Members whose text the reader takes in: their integers fit 64 bits, and no
more arrays and objects are open at once than it allows. -/
structure Legible (members : List (String × Value)) : Prop where
  fits : (Value.object members).Fits
  depth : (Value.object members).depth ≤ depthLimit

theorem Legible.integral {members : List (String × Value)} (h : Legible members) :
    ∀ m ∈ members, m.2.Integral :=
  Value.integral_object.mp h.fits.integral

theorem readValueIn_write {v : Value} (hfits : v.Fits) (hplain : v.Plain freeForm) {depth : Nat}
    (hdepth : v.depth ≤ depth) {rest : List Char} (hend : EndsNumber rest) :
    readValueIn freeForm (stepBound (v.write ++ rest)) depth (v.write ++ rest) = .ok (v, rest) := by
  apply readsBack_of_fits hfits hplain _ _ _ hend hdepth
  simp only [stepBound, List.length_append]
  omega

theorem readTree_write {v : Value} (hfits : v.Fits) (hdepth : v.depth ≤ depthLimit)
    {rest : List Char} (hend : EndsNumber rest) : readTree (v.write ++ rest) = .ok (v, rest) :=
  readValueIn_write hfits (fun h => absurd h Bool.false_ne_true) hdepth hend

/-- A text is decoded if it is read to its end. -/
theorem decode_ofList {α : Type} {read : List Char → Read α} {text : List Char} {a : α}
    (h : read text = .ok (a, [])) : decode read (String.ofList text) = .ok a := by
  simp [decode, h, readEnd, skipBlanks]

/-- A free-form text counts as its value in normal form. -/
theorem parse_compact {v : Value} (hfits : v.Fits) (hdepth : v.depth ≤ depthLimit)
    (hkeys : embeddedKey ∉ v.keys) : parse v.compact = .ok v.normal := by
  have hread := readValueIn_write hfits (fun _ => hkeys : v.Plain true) hdepth endsNumber_nil
  rw [List.append_nil] at hread
  apply decode_ofList
  rw [readFreeForm, readFreeFormWithin, hread]
  rfl

end AccountPortal.Json
