import AccountPortal.Json.Record
import AccountPortal.Proofs.Json.Content

/-!
The two ways of telling a value agree: from a text that spells a value a shape reads
what it takes from the value itself, and refuses the text exactly if it refuses the
value. A spelling is whatever relation between texts and values gives the readers what
they look for. It is shown for the scalars first, and then for every record whose
fields have shapes that agree.
-/
namespace AccountPortal.Json

theorem eq_ok_of_toOption {ε α : Type} {r : Except ε α} {a : α} (h : r.toOption = some a) :
    r = .ok a := by
  cases r with
  | ok b => exact congrArg Except.ok (Option.some.inj h)
  | error e => contradiction

theorem exists_error_of_toOption {ε α : Type} {r : Except ε α} (h : r.toOption = none) :
    ∃ e, r = .error e := by
  cases r with
  | ok a => contradiction
  | error e => exact ⟨e, rfl⟩

theorem decode_eq_ok_iff {α : Type} {read : List Char → Read α} {text : String} {a : α} :
    decode read text = .ok a ↔ ∃ rest, read text.toList = .ok (a, rest) ∧ skipBlanks rest = [] := by
  constructor
  · intro h
    unfold decode at h
    split at h
    · cases h
    · rename_i b rest hread
      cases hend : skipBlanks rest with
      | nil =>
        simp only [readEnd, hend] at h
        cases h
        exact ⟨rest, hread, hend⟩
      | cons c t =>
        simp only [readEnd, hend] at h
        cases h
  · rintro ⟨rest, hread, hend⟩
    simp [decode, hread, readEnd, hend]

theorem closeItems_error_of_opens {c : Char} {s t : List Char} (hfirst : skipBlanks s = c :: t)
    (hc : Opens c) : ∃ f, RecordForm.closeItems s = .error f := by
  simp [RecordForm.closeItems, hfirst, hc.ne ']', hc.ne ',']

theorem closeItems_error_of_comma {s t : List Char} (hcomma : skipBlanks s = ',' :: t) :
    ∃ f, RecordForm.closeItems s = .error f := by
  simp only [RecordForm.closeItems, hcomma]
  split <;> exact ⟨_, rfl⟩

/-- A relation between a text, the value at its front, and what follows that value. -/
abbrev TextOf : Type := List Char → Value → List Char → Prop

/-- A key is read behind its quote, and the colon after it. -/
def ReadsKey (q : List Char) (key : String) (rest : List Char) : Prop :=
  ∃ text k, readString q = .ok (text, k) ∧ readColon k = .ok ((), rest) ∧
    String.ofList text = key

/-- Reads up to the next item of an array, given how many there were before it. -/
def readNextItem (index : Nat) (s : List Char) : Read Bool :=
  if index = 0 then readItemStart s else readItemEnd s

/-- The items that a reader meets from some place in an array to its end. -/
inductive ItemsAhead (P : TextOf) : Nat → List Char → List Value → List Char → Prop where
  | done {index : Nat} {s rest : List Char} : readNextItem index s = .ok (false, rest) →
      RecordForm.closeItems s = .ok ((), rest) → ItemsAhead P index s [] rest
  | more {index : Nat} {s t u rest : List Char} {v : Value} {vs : List Value} :
      readNextItem index s = .ok (true, t) → (∃ f, RecordForm.closeItems s = .error f) →
      P t v u → ItemsAhead P (index + 1) u vs rest → ItemsAhead P index s (v :: vs) rest

/-- The members that a reader meets from behind the quote of a key to the closing brace. -/
inductive MembersAhead (P : TextOf) :
    List Char → List (String × Value) → List Char → Prop where
  | last {q t u rest : List Char} {key : String} {v : Value} : ReadsKey q key t → P t v u →
      readMemberEnd u = .ok (false, rest) → MembersAhead P q [(key, v)] rest
  | more {q t u next rest : List Char} {key : String} {v : Value}
      {ms : List (String × Value)} : ReadsKey q key t → P t v u →
      readMemberEnd u = .ok (true, next) → MembersAhead P next ms rest →
      MembersAhead P q ((key, v) :: ms) rest

/-- A shape reads from the text what it takes from the value. -/
def Shape.AgreesAt {α : Type} (shape : Shape α) (s : List Char) (v : Value)
    (rest : List Char) : Prop :=
  (shape.read s).toOption = (shape.ofTree? v).map (·, rest)

/-- The relation gives every reader what it looks for. -/
structure Spelling (P : TextOf) : Prop where
  blanks : ∀ {s v rest}, P s v rest → P (skipBlanks s) v rest
  null : ∀ {s rest}, P s .null rest →
    ∃ t, skipBlanks s = 'n' :: t ∧ readNull t = .ok ((), rest)
  yes : ∀ {s rest}, P s (.bool true) rest →
    ∃ t, skipBlanks s = 't' :: t ∧ readTrue t = .ok ((), rest)
  no : ∀ {s rest}, P s (.bool false) rest →
    ∃ t, skipBlanks s = 'f' :: t ∧ readFalse t = .ok ((), rest)
  number : ∀ {s n rest}, P s (.number n) rest → Shape.int64.AgreesAt s (.number n) rest ∧
    ∃ c t, skipBlanks s = c :: t ∧ (c = '-' ∨ isDigit c = true)
  string : ∀ {s x rest}, P s (.string x) rest →
    ∃ t text, skipBlanks s = '"' :: t ∧ readString t = .ok (text, rest) ∧ String.ofList text = x
  array : ∀ {s vs rest}, P s (.array vs) rest →
    ∃ t, skipBlanks s = '[' :: t ∧ ItemsAhead P 0 t vs rest
  object : ∀ {s ms rest}, P s (.object ms) rest →
    ∃ t, skipBlanks s = '\x7b' :: t ∧
      ((ms = [] ∧ readMemberStart t = .ok (false, rest)) ∨
        ∃ q, readMemberStart t = .ok (true, q) ∧ ms.length ≤ q.length ∧ MembersAhead P q ms rest)
  skipped : ∀ {s v rest}, P s v rest → skipValue s = .ok ((), rest)

/-- The character that a value begins with. -/
inductive Begins : Char → Value → Prop where
  | null : Begins 'n' .null
  | yes : Begins 't' (.bool true)
  | no : Begins 'f' (.bool false)
  | minus (n : Number) : Begins '-' (.number n)
  | digit {c : Char} (hc : isDigit c = true) (n : Number) : Begins c (.number n)
  | string (x : String) : Begins '"' (.string x)
  | array (vs : List Value) : Begins '[' (.array vs)
  | object (ms : List (String × Value)) : Begins '\x7b' (.object ms)

variable {P : TextOf} {α β : Type} {s rest : List Char} {v : Value}

theorem Spelling.begins (hP : Spelling P) (h : P s v rest) :
    ∃ c t, skipBlanks s = c :: t ∧ Begins c v := by
  cases v with
  | null =>
    obtain ⟨t, hfirst, _⟩ := hP.null h
    exact ⟨_, t, hfirst, .null⟩
  | bool b =>
    cases b with
    | true =>
      obtain ⟨t, hfirst, _⟩ := hP.yes h
      exact ⟨_, t, hfirst, .yes⟩
    | false =>
      obtain ⟨t, hfirst, _⟩ := hP.no h
      exact ⟨_, t, hfirst, .no⟩
  | number n =>
    obtain ⟨_, c, t, hfirst, rfl | hc⟩ := hP.number h
    · exact ⟨_, t, hfirst, .minus n⟩
    · exact ⟨_, t, hfirst, .digit hc n⟩
  | string x =>
    obtain ⟨t, _, hfirst, _⟩ := hP.string h
    exact ⟨_, t, hfirst, .string x⟩
  | array vs =>
    obtain ⟨t, hfirst, _⟩ := hP.array h
    exact ⟨_, t, hfirst, .array vs⟩
  | object ms =>
    obtain ⟨t, hfirst, _⟩ := hP.object h
    exact ⟨_, t, hfirst, .object ms⟩

namespace Shape

variable {shape : Shape α}

/-- On the texts of a spelling the shape reads what it takes from the values. -/
def AgreesOn (P : TextOf) (shape : Shape α) : Prop :=
  ∀ ⦃s v rest⦄, P s v rest → shape.AgreesAt s v rest

theorem AgreesAt.read_of_some {a : α} (h : shape.AgreesAt s v rest)
    (ha : shape.ofTree? v = some a) : shape.read s = .ok (a, rest) := by
  apply eq_ok_of_toOption
  rw [h, ha]
  rfl

theorem AgreesAt.read_of_none (h : shape.AgreesAt s v rest) (ha : shape.ofTree? v = none) :
    ∃ f, shape.read s = .error f := by
  apply exists_error_of_toOption
  rw [h, ha]
  rfl

/-- Decoding a whole text comes to the same as taking its value. -/
theorem AgreesAt.decode_eq_ok_iff {text : String} (h : shape.AgreesAt text.toList v rest)
    (hend : skipBlanks rest = []) {a : α} :
    decode shape.read text = .ok a ↔ shape.ofTree? v = some a := by
  rw [Json.decode_eq_ok_iff]
  constructor
  · rintro ⟨rest', hread, _⟩
    cases ha : shape.ofTree? v with
    | none =>
      obtain ⟨f, hfault⟩ := h.read_of_none ha
      cases hread.symm.trans hfault
    | some b =>
      cases hread.symm.trans (h.read_of_some ha)
      rfl
  · intro ha
    exact ⟨rest, h.read_of_some ha, hend⟩

theorem AgreesAt.map (h : shape.AgreesAt s v rest) (f : α → β) :
    (shape.map f).AgreesAt s v rest := by
  unfold AgreesAt
  cases ha : shape.ofTree? v with
  | some a => simp [Shape.map, h.read_of_some ha, ha, Except.map, Except.toOption]
  | none =>
    obtain ⟨fault, hr⟩ := h.read_of_none ha
    simp [Shape.map, hr, ha, Except.map, Except.toOption]

theorem AgreesOn.map (h : shape.AgreesOn P) (f : α → β) : (shape.map f).AgreesOn P :=
  fun _ _ _ hs => (h hs).map f

theorem ofTree?_optional (hnull : v ≠ .null) :
    shape.optional.ofTree? v = (shape.ofTree? v).map some := by
  cases v <;> first | contradiction | rfl

section Scalars

variable (hP : Spelling P)

include hP

theorem text_agreesOn : Shape.text.AgreesOn P := by
  intro s v rest h
  obtain ⟨c, t, hfirst, hc⟩ := hP.begins h
  cases hc with
  | string x =>
    obtain ⟨t, text, hfirst, hread, rfl⟩ := hP.string h
    simp [AgreesAt, Shape.text, Value.text?, readText, hfirst, hread, Except.map, Except.toOption]
  | digit hd =>
    have hquote : c ≠ '"' := ne_of_isDigit hd rfl
    simp [AgreesAt, Shape.text, Value.text?, readText, hfirst, hquote, Except.map,
      Except.toOption]
  | _ =>
    simp [AgreesAt, Shape.text, Value.text?, readText, hfirst, Except.map, Except.toOption]

theorem flag_agreesOn : Shape.flag.AgreesOn P := by
  intro s v rest h
  obtain ⟨c, t, hfirst, hc⟩ := hP.begins h
  cases hc with
  | yes =>
    obtain ⟨t, hfirst, hread⟩ := hP.yes h
    simp [AgreesAt, Shape.flag, readFlag, hfirst, hread, Except.map, Except.toOption]
  | no =>
    obtain ⟨t, hfirst, hread⟩ := hP.no h
    simp [AgreesAt, Shape.flag, readFlag, hfirst, hread, Except.map, Except.toOption]
  | digit hd =>
    have htrue : c ≠ 't' := ne_of_isDigit hd rfl
    have hfalse : c ≠ 'f' := ne_of_isDigit hd rfl
    simp [AgreesAt, Shape.flag, readFlag, hfirst, htrue, hfalse, Except.toOption]
  | _ => simp [AgreesAt, Shape.flag, readFlag, hfirst, Except.toOption]

theorem int64_agreesOn : Shape.int64.AgreesOn P := by
  intro s v rest h
  obtain ⟨c, t, hfirst, hc⟩ := hP.begins h
  cases hc with
  | minus n | digit hd n => exact (hP.number h).1
  | _ => simp [AgreesAt, Shape.int64, readInt64, hfirst, isDigit, Except.toOption]

theorem AgreesOn.optional (h : shape.AgreesOn P) : shape.optional.AgreesOn P := by
  intro s v rest hs
  by_cases hnull : v = .null
  · subst v
    obtain ⟨t, hfirst, hread⟩ := hP.null hs
    simp [AgreesAt, Shape.optional, hfirst, hread, Except.map, Except.toOption]
  · obtain ⟨c, t, hfirst, hc⟩ := hP.begins hs
    have hn : c ≠ 'n' := by
      cases hc with
      | null => exact absurd rfl hnull
      | digit hd => exact ne_of_isDigit hd rfl
      | _ => decide
    have hread : shape.optional.read s = (shape.map some).read (skipBlanks s) := by
      simp [Shape.optional, Shape.map, hfirst, hn]
    rw [AgreesAt, ofTree?_optional hnull, hread]
    exact (h (hP.blanks hs)).map some

end Scalars

end Shape

/-- A draft in which one value is put into a field that is still free. -/
def Field.take? {σ : Type} (f : Field σ) (draft : σ) (v : Value) : Option σ :=
  if f.isSet draft then none else (f.setFrom.ofTree? v).map (· draft)

namespace RecordForm

variable {σ α : Type} (form : RecordForm σ α)

theorem mem_fields_of_field? {name : String} {field : Field σ} (h : form.field? name = some field) :
    field ∈ form.fields :=
  List.mem_of_find?_eq_some h

theorem finish_toOption (draft : σ) (rest : List Char) :
    (form.finish draft rest).toOption = (form.build? draft).map (·, rest) := by
  unfold finish build?
  cases form.build draft <;> rfl

/-- A draft with one more member of an object. -/
def takeMember? (draft : σ) (key : String) (v : Value) : Option σ :=
  match form.field? key with
  | none => some draft
  | some field => field.take? draft v

theorem ofMembers?_cons (draft : σ) (key : String) (v : Value) (rest : List (String × Value)) :
    form.ofMembers? draft ((key, v) :: rest) =
      (form.takeMember? draft key v).bind fun draft => form.ofMembers? draft rest := by
  rw [ofMembers?, takeMember?]
  cases form.field? key with
  | none => simp
  | some field =>
    cases hset : field.isSet draft with
    | true => simp [Field.take?, hset]
    | false => cases htree : field.setFrom.ofTree? v <;> simp [Field.take?, hset, htree]

/-- What becomes of a draft once a member has been read. -/
def readMore (steps : Nat) (draft : σ) (s : List Char) : Read σ :=
  match readMemberEnd s with
  | .error f => .error f
  | .ok (false, rest) => .ok (draft, rest)
  | .ok (true, rest) => form.readMembers steps draft rest

/-- A member is read into the draft as it is taken from the tree. -/
theorem readMembers_succ {q t u : List Char} {key : String} (hkey : ReadsKey q key t)
    (hfields : ∀ f ∈ form.fields, f.setFrom.AgreesAt t v u) (hskip : skipValue t = .ok ((), u))
    (steps : Nat) (draft : σ) :
    (form.readMembers (steps + 1) draft q).toOption =
      (form.takeMember? draft key v).bind fun next => (form.readMore steps next u).toOption := by
  obtain ⟨text, k, hstring, hcolon, rfl⟩ := hkey
  rw [readMembers, hstring, takeMember?]
  cases hf : form.field? (String.ofList text) with
  | none =>
    rcases hend : readMemberEnd u with _ | ⟨_ | _, _⟩ <;>
      simp [hf, hcolon, hskip, Except.map, readMore, hend]
  | some field =>
    have hagrees := hfields field (form.mem_fields_of_field? hf)
    cases hset : field.isSet draft with
    | true => simp [hf, hset, Field.take?, Except.toOption]
    | false =>
      cases htree : field.setFrom.ofTree? v with
      | none =>
        obtain ⟨f, hread⟩ := hagrees.read_of_none htree
        simp [hf, hset, hcolon, hread, Field.take?, htree, Except.map, Except.toOption]
      | some set =>
        have hread := hagrees.read_of_some htree
        rcases hend : readMemberEnd u with _ | ⟨_ | _, _⟩ <;>
          simp [hf, hset, hcolon, hread, Field.take?, htree, Except.map, Except.toOption,
            readMore, hend]

section Fields

variable {form} (hfields : ∀ f ∈ form.fields, f.setFrom.AgreesOn P)

include hfields

/-- Members are collected in the same way from their text and from the tree. -/
theorem readMembers_agree (hskip : ∀ {s v rest}, P s v rest → skipValue s = .ok ((), rest))
    {q : List Char} {ms : List (String × Value)} (h : MembersAhead P q ms rest) (steps : Nat)
    (draft : σ) (hsteps : ms.length ≤ steps) :
    (form.readMembers steps draft q).toOption = (form.ofMembers? draft ms).map (·, rest) := by
  induction h generalizing steps draft with
  | last hkey hv hend =>
    obtain ⟨n, rfl⟩ : ∃ n, steps = n + 1 := ⟨steps - 1, by simp at hsteps; omega⟩
    rw [form.readMembers_succ hkey (fun f hf => hfields f hf hv) (hskip hv), ofMembers?_cons]
    simp only [readMore, hend]
    cases form.takeMember? draft _ _ <;> rfl
  | more hkey hv hend _ ih =>
    simp only [List.length_cons] at hsteps
    obtain ⟨n, rfl⟩ : ∃ n, steps = n + 1 := ⟨steps - 1, by omega⟩
    rw [form.readMembers_succ hkey (fun f hf => hfields f hf hv) (hskip hv), ofMembers?_cons,
      Option.map_bind]
    congr
    funext next
    rw [Function.comp_apply, ← ih n next (by omega)]
    simp only [readMore, hend]

end Fields

theorem firstRequired?_eq_none (index : Nat) (fields : List (Field σ)) :
    firstRequired? index fields = none ↔ fields.all (fun f => !f.required) = true := by
  induction fields generalizing index with
  | nil => simp [firstRequired?]
  | cons f fields ih =>
    rw [firstRequired?, List.all_cons]
    cases f.required <;> simp [ih]

theorem finishShort_toOption (index : Nat) (fields : List (Field σ)) (draft : σ)
    (rest : List Char) :
    (form.finishShort index fields draft rest).toOption =
      ((ofItems? fields draft []).bind form.build?).map (·, rest) := by
  have hnone : ofItems? fields draft [] =
      if fields.all (fun f => !f.required) then some draft else none := by
    cases fields <;> rfl
  rw [finishShort, hnone]
  cases hfirst : firstRequired? index fields with
  | none =>
    rw [if_pos ((firstRequired?_eq_none index fields).mp hfirst), Option.bind_some]
    exact form.finish_toOption draft rest
  | some n =>
    rw [if_neg fun hall => by simp [(firstRequired?_eq_none index fields).mpr hall] at hfirst]
    rfl

/-- Items are collected in the same way from the rest of their text and from the tree. -/
theorem readItems_agree {index : Nat} {vs : List Value} (h : ItemsAhead P index s vs rest)
    (fields : List (Field σ)) (hfields : ∀ f ∈ fields, f.setFrom.AgreesOn P) (draft : σ) :
    (form.readItems index fields draft s).toOption =
      ((ofItems? fields draft vs).bind form.build?).map (·, rest) := by
  induction fields generalizing index s vs draft with
  | nil =>
    cases h with
    | done hend hclose =>
      rw [readItems, hclose]
      exact form.finish_toOption draft rest
    | more hnext hclose hv hmore =>
      obtain ⟨f, hclose⟩ := hclose
      rw [readItems, hclose]
      rfl
  | cons field fields ih =>
    unfold readItems
    cases h with
    | done hend hclose =>
      unfold readNextItem at hend
      rw [hend]
      exact form.finishShort_toOption index (field :: fields) draft rest
    | more hnext hclose hv hmore =>
      unfold readNextItem at hnext
      rw [hnext, ofItems?]
      have hagrees := hfields field List.mem_cons_self hv
      cases htree : field.setFrom.ofTree? _ with
      | none =>
        obtain ⟨f, hread⟩ := hagrees.read_of_none htree
        simp [hread, Except.toOption]
      | some set =>
        have hread := hagrees.read_of_some htree
        simp only [hread]
        exact ih hmore (fun f hf => hfields f (List.mem_cons_of_mem _ hf)) (set draft)

theorem read_agrees_object (hP : Spelling P) (hfields : ∀ f ∈ form.fields, f.setFrom.AgreesOn P)
    {ms : List (String × Value)} (h : P s (.object ms) rest) :
    form.shape.AgreesAt s (.object ms) rest := by
  obtain ⟨t, hopen, ⟨rfl, hstart⟩ | ⟨q, hstart, hlength, hms⟩⟩ := hP.object h
  · simp only [Shape.AgreesAt, shape, read, hopen, hstart]
    exact form.finish_toOption form.empty rest
  · have hread := readMembers_agree hfields hP.skipped hms (stepBound q) form.empty
      (by rw [stepBound]; omega)
    simp only [Shape.AgreesAt, shape, read, hopen, hstart, ofTree?, ofObject?]
    cases htree : form.ofMembers? form.empty ms with
    | none =>
      rw [htree] at hread
      obtain ⟨f, hfault⟩ := exists_error_of_toOption hread
      rw [hfault]
      rfl
    | some draft =>
      rw [htree] at hread
      rw [eq_ok_of_toOption hread]
      exact form.finish_toOption draft rest

/-- A record agrees if its fields do. -/
theorem shape_agreesOn (hP : Spelling P) (hfields : ∀ f ∈ form.fields, f.setFrom.AgreesOn P) :
    form.shape.AgreesOn P := by
  intro s v rest h
  obtain ⟨c, t, hfirst, hc⟩ := hP.begins h
  cases hc with
  | array vs =>
    obtain ⟨t, hopen, hitems⟩ := hP.array h
    simp only [Shape.AgreesAt, shape, read, hopen]
    exact form.readItems_agree hitems form.fields hfields form.empty
  | object ms => exact form.read_agrees_object hP hfields h
  | digit hd =>
    have harray : c ≠ '[' := ne_of_isDigit hd rfl
    have hobject : c ≠ '\x7b' := ne_of_isDigit hd rfl
    simp [Shape.AgreesAt, shape, read, hfirst, harray, hobject, ofTree?, ofObject?,
      Except.toOption]
  | _ => simp [Shape.AgreesAt, shape, read, hfirst, ofTree?, ofObject?, Except.toOption]

end RecordForm

end AccountPortal.Json
