import AccountPortal.Proofs.Json.Members

/-!
Fields that lie apart. A form is lawful as soon as any two of its fields have
different names and go to different places of the draft. What such a form
collects is then told field by field: a field has got nothing if no member has
its name, and what the value holds if exactly one has. Members may therefore come
in any order, and members that name no field may be put in or left out.
-/
namespace AccountPortal.Json

namespace Field

variable {σ α β : Type} {name name' : String} {required required' : Bool}
  {get : σ → Option α} {put : α → σ → σ} {shape : Shape α}
  {get' : σ → Option β} {put' : β → σ → σ} {shape' : Shape β}

/-- Two fields that have different names and no effect on each other. -/
structure Apart (f g : Field σ) : Prop where
  name : f.name ≠ g.name
  isSet_right : ∀ set, f.Sets set → ∀ draft, g.isSet (set draft) = g.isSet draft
  isSet_left : ∀ set, g.Sets set → ∀ draft, f.isSet (set draft) = f.isSet draft
  commute : ∀ s, f.Sets s → ∀ t, g.Sets t → ∀ draft, s (t draft) = t (s draft)

theorem Apart.symm {f g : Field σ} (h : f.Apart g) : g.Apart f where
  name := h.name.symm
  isSet_right := h.isSet_left
  isSet_left := h.isSet_right
  commute s hs t ht draft := (h.commute t ht s hs draft).symm

/-- Fields are apart if they go to different places. -/
theorem Apart.of (hname : name ≠ name') (hright : ∀ a draft, get' (put a draft) = get' draft)
    (hleft : ∀ b draft, get (put' b draft) = get draft)
    (hcomm : ∀ a b draft, put a (put' b draft) = put' b (put a draft)) :
    (Field.of name required get put shape).Apart
      (Field.of name' required' get' put' shape') where
  name := hname
  isSet_right set hset draft := by
    obtain ⟨a, rfl⟩ := hset.of
    exact congrArg Option.isSome (hright a draft)
  isSet_left set hset draft := by
    obtain ⟨b, rfl⟩ := hset.of
    exact congrArg Option.isSome (hleft b draft)
  commute s hs t ht draft := by
    obtain ⟨a, rfl⟩ := hs.of
    obtain ⟨b, rfl⟩ := ht.of
    exact hcomm a b draft

theorem isSet_of (hput : ∀ a draft, get (put a draft) = some a) (set : σ → σ)
    (hset : (Field.of name required get put shape).Sets set) (draft : σ) :
    (Field.of name required get put shape).isSet (set draft) = true := by
  obtain ⟨a, rfl⟩ := hset.of
  exact congrArg Option.isSome (hput a draft)

/-- What a field of some shape has got from the values with its name. -/
inductive Gathered (shape : Shape α) : List Value → Option α → Prop where
  | absent : Gathered shape [] none
  | one {v : Value} {a : α} : shape.ofTree? v = some a → Gathered shape [v] (some a)

theorem Gathered.eq_nil {values : List Value} (h : Gathered shape values none) : values = [] := by
  cases h
  rfl

/-- A field that is still free is filled with what is gathered for it. The drafts that it
can lead to differ only at the place of the field. -/
theorem fill?_of (draft : Option α → σ) (hfree : get (draft none) = none)
    (hput : ∀ a, put a (draft none) = draft (some a)) {values : List Value} {next : σ} :
    (Field.of name required get put shape).fill? (draft none) values = some next ↔
      ∃ got, Gathered shape values got ∧ draft got = next := by
  have htake (v : Value) : (Field.of name required get put shape).take? (draft none) v =
      (shape.ofTree? v).map fun a => draft (some a) := by
    have hset : (Field.of name required get put shape).isSet (draft none) = false :=
      congrArg Option.isSome hfree
    rw [take?, hset]
    exact (Option.map_map ..).trans (congrArg (Option.map · _) (funext hput))
  rcases values with _ | ⟨v, _ | ⟨w, rest⟩⟩
  · constructor
    · intro h
      exact ⟨none, .absent, Option.some.inj h⟩
    · rintro ⟨_, ⟨⟩, rfl⟩
      rfl
  · rw [fill?, htake, Option.map_eq_some_iff]
    constructor
    · rintro ⟨a, ha, rfl⟩
      exact ⟨some a, .one ha, rfl⟩
    · rintro ⟨got, hgot, rfl⟩
      cases hgot with
      | one ha => exact ⟨_, ha, rfl⟩
  · constructor
    · intro h
      contradiction
    · rintro ⟨_, ⟨⟩, _⟩

theorem fillAll?_of (draft : Option α → σ) {members : List (String × Value)}
    {fields : List (Field σ)} {next : σ} (hfree : get (draft none) = none)
    (hput : ∀ a, put a (draft none) = draft (some a)) :
    fillAll? members (Field.of name required get put shape :: fields) (draft none) = some next ↔
      ∃ got, Gathered shape (valuesOf name members) got ∧
        fillAll? members fields (draft got) = some next := by
  have hname : (Field.of name required get put shape).name = name := rfl
  simp only [fillAll?, hname, Option.bind_eq_some_iff, fill?_of draft hfree hput]
  constructor
  · rintro ⟨_, ⟨got, hgot, rfl⟩, h⟩
    exact ⟨got, hgot, h⟩
  · rintro ⟨got, hgot, h⟩
    exact ⟨draft got, ⟨got, hgot, rfl⟩, h⟩

/-- More than one value is refused, so the order of values does not matter. -/
theorem fill?_perm (f : Field σ) {values others : List Value} (h : values.Perm others)
    (draft : σ) : f.fill? draft values = f.fill? draft others := by
  match values, others, h with
  | [], others, h => rw [h.nil_eq]
  | [v], others, h => rw [List.perm_singleton.mp h.symm]
  | _ :: _ :: _, [], h => simpa using h.length_eq
  | _ :: _ :: _, [_], h => simpa using h.length_eq
  | _ :: _ :: _, _ :: _ :: _, _ => rfl

theorem fillAll?_perm {members others : List (String × Value)} (fields : List (Field σ))
    (h : ∀ f ∈ fields, (valuesOf f.name members).Perm (valuesOf f.name others)) (draft : σ) :
    fillAll? members fields draft = fillAll? others fields draft := by
  induction fields generalizing draft with
  | nil => rfl
  | cons f fields ih =>
    rw [fillAll?, fillAll?, f.fill?_perm (h f List.mem_cons_self)]
    exact congrArg _ (funext (ih fun g hg => h g (List.mem_cons_of_mem _ hg)))

end Field

theorem valuesOf_eq_filterMap (name : String) (members : List (String × Value)) :
    valuesOf name members = members.filterMap fun m => if m.1 = name then some m.2 else none := by
  induction members with
  | nil => rfl
  | cons m rest ih =>
    obtain ⟨key, v⟩ := m
    by_cases hkey : key = name <;> simp [valuesOf, hkey, ih]

namespace RecordForm

variable {σ α : Type} {form : RecordForm σ α}

/-- The members that name a field. -/
def known {β : Type} (form : RecordForm σ α) (members : List (String × β)) :
    List (String × β) :=
  members.filter fun m => m.1 ∈ form.names

theorem valuesOf_known {name : String} (hname : name ∈ form.names)
    (members : List (String × Value)) :
    valuesOf name (form.known members) = valuesOf name members := by
  rw [valuesOf_eq_filterMap, valuesOf_eq_filterMap, known, List.filterMap_filter]
  congr 1
  funext m
  by_cases hkey : m.1 = name <;> simp [hkey, hname]

/-- A form is lawful if its fields lie apart and each is set once it has got a value. -/
theorem lawful_of_apart
    (hself : ∀ f ∈ form.fields, ∀ set, f.Sets set → ∀ draft, f.isSet (set draft) = true)
    (hapart : form.fields.Pairwise Field.Apart) : form.Lawful := by
  -- The fields are told apart in the order of the form only, but being apart is symmetric.
  have hall : ∀ ⦃f⦄, f ∈ form.fields → ∀ ⦃g⦄, g ∈ form.fields → g.name ≠ f.name → f.Apart g := by
    apply List.Pairwise.forall_of_forall_of_flip
    · exact fun f _ hne => absurd rfl hne
    · refine hapart.imp ?_
      intro f g h _
      exact h
    · refine hapart.imp ?_
      intro f g h _
      exact h.symm
  exact {
    names := hapart.imp fun h => h.name
    isSet_self := hself
    isSet_other := fun f hf g hg hne => (hall hf hg hne).isSet_right
    commute := fun f hf g hg hne => (hall hf hg hne).commute }

/-- Only the members that name a field count, and their order does not. -/
theorem Lawful.ofMembers?_perm (law : form.Lawful) {members others : List (String × Value)}
    (h : (form.known members).Perm (form.known others)) (draft : σ) :
    form.ofMembers? draft members = form.ofMembers? draft others := by
  rw [law.ofMembers?_eq_fillAll?, law.ofMembers?_eq_fillAll?]
  apply Field.fillAll?_perm
  intro f hf
  have hname : f.name ∈ form.names := List.mem_map_of_mem hf
  rw [← valuesOf_known hname members, ← valuesOf_known hname others, valuesOf_eq_filterMap,
    valuesOf_eq_filterMap]
  exact h.filterMap _

end RecordForm

/-- The literals of the members with a name, in order. -/
def literalsOf (name : String) (members : List (String × Literal)) : List Literal :=
  members.filterMap fun m => if m.1 = name then some m.2 else none

namespace Literal

/-- What the literals of a field hold that may be absent or `null`. -/
inductive Optionally {α : Type} (P : Literal → α → Prop) : List Literal → Option α → Prop where
  | absent : Optionally P [] none
  | null : Optionally P [.null] none
  | one {l : Literal} {a : α} : P l a → Optionally P [l] (some a)

/-- What the literals of a switch hold: it is off if it is absent. -/
inductive Switch : List Literal → Bool → Prop where
  | absent : Switch [] false
  | one (b : Bool) : Switch [.bool b] b

theorem valuesOf_membersValue (name : String) (members : List (String × Literal)) :
    valuesOf name (membersValue members) = (literalsOf name members).map value := by
  rw [valuesOf_eq_filterMap, membersValue_eq_map, List.filterMap_map, literalsOf,
    List.map_filterMap]
  congr 1
  funext m
  by_cases hkey : m.1 = name <;> simp [hkey]

section Gathered

variable {α : Type} {shape : Shape α} {ls : List Literal}

open Json.Field (Gathered)

theorem gathered_some {a : α} : Gathered shape (ls.map value) (some a) ↔
    ∃ l, ls = [l] ∧ shape.ofTree? l.value = some a := by
  constructor
  · intro h
    match ls, h with
    | [l], .one ha => exact ⟨l, rfl, ha⟩
  · rintro ⟨l, rfl, ha⟩
    exact .one ha

theorem gathered_none : Gathered shape (ls.map value) none ↔ ls = [] := by
  constructor
  · intro h
    exact List.map_eq_nil_iff.mp h.eq_nil
  · rintro rfl
    exact .absent

theorem gathered_int64 {i : Int} :
    Gathered .int64 (ls.map value) (some i) ↔ ls = [.ofInt i] ∧ isInt64 i = true := by
  simp only [gathered_some, Shape.ofTree?_int64_eq_some, value_eq_integer]
  constructor
  · rintro ⟨l, rfl, rfl, hi⟩
    exact ⟨rfl, hi⟩
  · rintro ⟨rfl, hi⟩
    exact ⟨_, rfl, rfl, hi⟩

theorem ofTree?_text {l : Literal} {s : String} :
    Shape.text.ofTree? l.value = some s ↔ l = .string s := by
  cases l <;> simp [Shape.text, Value.text?, value]

theorem ofTree?_flag {l : Literal} {b : Bool} :
    Shape.flag.ofTree? l.value = some b ↔ l = .bool b := by
  cases l <;> simp [Shape.flag, value]

theorem gathered_text {s : String} :
    Gathered .text (ls.map value) (some s) ↔ ls = [.string s] := by
  simp only [gathered_some, ofTree?_text]
  constructor
  · rintro ⟨l, rfl, rfl⟩
    rfl
  · rintro rfl
    exact ⟨_, rfl, rfl⟩

theorem gathered_flag {b : Bool} :
    (∃ got, Gathered .flag (ls.map value) got ∧ got.getD false = b) ↔ Switch ls b := by
  constructor
  · rintro ⟨_ | b, hgot, rfl⟩
    · rw [gathered_none.mp hgot]
      exact .absent
    · obtain ⟨l, rfl, hl⟩ := gathered_some.mp hgot
      rw [ofTree?_flag.mp hl]
      exact .one b
  · rintro (_ | b)
    · exact ⟨none, gathered_none.mpr rfl, rfl⟩
    · exact ⟨some b, gathered_some.mpr ⟨_, rfl, ofTree?_flag.mpr rfl⟩, rfl⟩

theorem gathered_optional (hnull : shape.ofTree? .null = none) {o : Option α} :
    (∃ got, Gathered shape.optional (ls.map value) got ∧ got.join = o) ↔
      Optionally (fun l a => shape.ofTree? l.value = some a) ls o := by
  constructor
  · rintro ⟨_ | got, hgot, rfl⟩
    · rw [gathered_none.mp hgot]
      exact .absent
    · obtain ⟨l, rfl, hl⟩ := gathered_some.mp hgot
      by_cases hl' : l = .null
      · subst hl'
        obtain rfl := Option.some.inj hl
        exact .null
      · rw [Shape.ofTree?_optional (mt value_eq_null.mp hl')] at hl
        obtain ⟨a, ha, rfl⟩ := Option.map_eq_some_iff.mp hl
        exact .one ha
  · rintro (_ | _ | ha)
    · exact ⟨none, gathered_none.mpr rfl, rfl⟩
    · exact ⟨some none, gathered_some.mpr ⟨_, rfl, rfl⟩, rfl⟩
    · rename_i l a
      refine ⟨some (some a), gathered_some.mpr ⟨l, rfl, ?_⟩, rfl⟩
      have hl : l.value ≠ .null := by
        intro hl
        rw [hl, hnull] at ha
        contradiction
      rw [Shape.ofTree?_optional hl, ha, Option.map_some]

end Gathered

end Literal

end AccountPortal.Json
