import AccountPortal.Proofs.Json.Bodies

/-!
Records of strings that all have to be there. As an object such a record has each of its
fields once, with its string, and whatever else. As an array it is spelled by the strings
of its fields in order: the reader goes on from one item to the next as long as there are
fields, and then only the closing bracket may follow.
-/
namespace AccountPortal.Json

variable {σ α : Type}

/-- A field that holds a string and may not be absent. -/
inductive Field.RequiresText : Field σ → Prop where
  | of (name : String) (get : σ → Option String) (put : String → σ → σ) :
      RequiresText (.of name true get put .text)

theorem Shape.ofTree?_text_eq_some {v : Value} {s : String} :
    Shape.text.ofTree? v = some s ↔ v = .string s := by
  cases v <;> simp [Shape.text, Value.text?]

theorem Field.gathered_text_eq_some {values : List Value} {s : String} :
    Gathered .text values (some s) ↔ values = [.string s] := by
  constructor
  · rintro ⟨⟩
    rename_i h
    rw [Shape.ofTree?_text_eq_some.mp h]
  · rintro rfl
    exact .one rfl

theorem Field.RequiresText.agreesOn {P : TextOf} (hP : Spelling P) {f : Field σ}
    (hf : f.RequiresText) : f.setFrom.AgreesOn P := by
  cases hf with
  | of name get put => exact (Shape.text_agreesOn hP).map _

namespace RecordForm

theorem ofItems?_nil {draft next : σ} {items : List Value} :
    ofItems? [] draft items = some next ↔ items = [] ∧ draft = next := by
  cases items <;> simp [ofItems?]

theorem ofItems?_text {name : String} {get : σ → Option String} {put : String → σ → σ}
    {fields : List (Field σ)} {draft next : σ} {items : List Value} :
    ofItems? (.of name true get put .text :: fields) draft items = some next ↔
      ∃ s rest, items = .string s :: rest ∧ ofItems? fields (put s draft) rest = some next := by
  cases items with
  | nil => simp [ofItems?, Field.of]
  | cons v rest =>
    cases v <;> simp [ofItems?, Field.of, Shape.map, Shape.text, Value.text?]

end RecordForm

variable {d index : Nat} {s t rest : List Char}

theorem Field.RequiresText.spells {f : Field σ} (hf : f.RequiresText) {set : σ → σ}
    (h : f.setFrom.read s = .ok (set, rest)) :
    ∃ x, Spells d s (.value (.string x)) rest := by
  cases hf with
  | of name get put =>
    obtain ⟨x, k, htext, heq⟩ := map_eq_ok h
    cases heq
    obtain ⟨x, k, htext, heq⟩ := map_eq_ok htext
    cases heq
    unfold readText at htext
    split at htext
    · cases htext
    · rename_i hquote
      exact ⟨_, .scalar hquote (.string htext)⟩
    · cases htext

/-- Where the items begin that are still to be read: at once, or behind a comma. -/
def ItemsBegin : (index : Nat) → List Char → List Char → Prop
  | 0, s, t => t = s
  | _ + 1, s, t => skipBlanks s = ',' :: t

theorem itemsBegin_of_readNextItem (h : readNextItem index s = .ok (true, rest)) :
    ∃ t, ItemsBegin index s t ∧ skipBlanks t = rest := by
  cases index with
  | zero =>
    obtain ⟨hmore, _⟩ | ⟨_, hrest⟩ := readItemStart_eq_ok h
    · cases hmore
    · exact ⟨s, rfl, hrest⟩
  | succ index =>
    obtain ⟨hmore, _⟩ | ⟨_, t, hcomma, hrest⟩ := readItemEnd_eq_ok h
    · cases hmore
    · exact ⟨t, hcomma, hrest⟩

theorem RecordForm.closeItems_eq_ok (h : closeItems s = .ok ((), rest)) :
    skipBlanks s = ']' :: rest := by
  unfold closeItems at h
  split at h
  · cases h
  · rename_i hclose
    cases h
    exact hclose
  · split at h <;> cases h
  · cases h

/-- What is read from the items of an array is spelled by them. Since no field may be absent,
there is one item for each, and the bracket closes behind the last. -/
theorem RecordForm.spells_of_readItems {form : RecordForm σ α} {fields : List (Field σ)}
    (hfields : ∀ f ∈ fields, f.RequiresText) {draft : σ} {a : α}
    (h : form.readItems index fields draft s = .ok (a, rest)) :
    (fields = [] ∧ skipBlanks s = ']' :: rest) ∨
      ∃ t vs, ItemsBegin index s t ∧ Spells d t (.items vs) rest := by
  -- On the fields that are left. Where their items begin depends on whether one was read before.
  induction fields generalizing index s draft with
  | nil =>
    rw [readItems] at h
    split at h
    · cases h
    · rename_i k hclose
      unfold finish at h
      split at h
      · cases h
        exact Or.inl ⟨rfl, closeItems_eq_ok hclose⟩
      · cases h
  | cons f fields ih =>
    obtain ⟨hf, hfields⟩ := List.forall_mem_cons.mp hfields
    rw [readItems] at h
    split at h
    · cases h
    · rename_i k hnext
      cases hf
      simp [finishShort, firstRequired?, Field.of] at h
    · rename_i k hnext
      obtain ⟨t, hbegin, rfl⟩ := itemsBegin_of_readNextItem hnext
      split at h
      · cases h
      · rename_i set u hread
        obtain ⟨x, hx⟩ := hf.spells hread
        refine Or.inr ⟨t, ?_⟩
        obtain ⟨rfl, hclose⟩ | ⟨more, vs, hcomma, hvs⟩ := ih hfields h
        · exact ⟨_, hbegin, .lastItem hx.of_skipBlanks hclose⟩
        · exact ⟨_, hbegin, .item hx.of_skipBlanks hcomma hvs⟩

namespace RecordForm

variable {form : RecordForm σ α} (hfields : ∀ f ∈ form.fields, f.RequiresText)

include hfields

theorem agreesOn_of_requiresText {P : TextOf} (hP : Spelling P) : form.shape.AgreesOn P :=
  form.shape_agreesOn hP fun f hf => (hfields f hf).agreesOn hP

/-- A text that opens a bracket is decoded exactly if it spells an array that holds the record. -/
theorem decode_bracket_iff (hne : form.fields ≠ []) {text : String} {s : List Char}
    (hopen : skipBlanks text.toList = '[' :: s) {a : α} :
    decode form.read text = .ok a ↔
      ∃ items, SpellsWhole text (.array items) ∧ form.ofTree? (.array items) = some a := by
  have hagrees {items : List Value} {rest : List Char}
      (hspells : Spells depthLimit text.toList (.value (.array items)) rest)
      (hend : skipBlanks rest = []) :
      decode form.read text = .ok a ↔ form.ofTree? (.array items) = some a :=
    (agreesOn_of_requiresText hfields spelled_spelling ⟨_, hspells⟩).decode_eq_ok_iff hend
  constructor
  · intro h
    obtain ⟨rest, hread, hend⟩ := decode_eq_ok_iff.mp h
    have hitems : form.readItems 0 form.fields form.empty s = .ok (a, rest) := by
      simpa only [RecordForm.read, hopen] using hread
    obtain ⟨hnil, _⟩ | ⟨_, items, rfl, hspells⟩ := spells_of_readItems hfields hitems
    · exact absurd hnil hne
    · have harray := Spells.array hopen hspells
      exact ⟨items, ⟨rest, harray, hend⟩, (hagrees harray hend).mp h⟩
  · rintro ⟨items, ⟨rest, hspells, hend⟩, htree⟩
    exact (hagrees hspells hend).mpr htree

end RecordForm

end AccountPortal.Json
