import AccountPortal.Proofs.Json.Record

/-!
Members of an object by name. A record whose fields do not get in each other's
way is collected field by field: each field takes the values of the members with
its name, none or exactly one. So neither the order of the members nor members
with other names matter.
-/
namespace AccountPortal.Json

/-- The values of the members with a name, in order. -/
def valuesOf (name : String) : List (String × Value) → List Value
  | [] => []
  | (key, v) :: rest => if key = name then v :: valuesOf name rest else valuesOf name rest

theorem mem_of_mem_valuesOf {name : String} {members : List (String × Value)} {v : Value}
    (h : v ∈ valuesOf name members) : (name, v) ∈ members := by
  induction members with
  | nil => simp [valuesOf] at h
  | cons m rest ih =>
    obtain ⟨key, w⟩ := m
    rw [valuesOf] at h
    split at h
    · rename_i hkey
      subst hkey
      rcases List.mem_cons.mp h with rfl | h
      · exact List.mem_cons_self
      · exact List.mem_cons_of_mem _ (ih h)
    · exact List.mem_cons_of_mem _ (ih h)

/-- The second list is the first with more members put in, all of allowed names. -/
inductive Grows (allowed : String → Prop) :
    List (String × Value) → List (String × Value) → Prop where
  | nil : Grows allowed [] []
  | keep (m : String × Value) {members more : List (String × Value)} :
      Grows allowed members more → Grows allowed (m :: members) (m :: more)
  | add {key : String} (v : Value) {members more : List (String × Value)} :
      allowed key → Grows allowed members more → Grows allowed members ((key, v) :: more)

section Grows

variable {allowed : String → Prop} {members more : List (String × Value)}

theorem Grows.weaken (h : Grows allowed members more) {also : String → Prop}
    (hle : ∀ key, allowed key → also key) : Grows also members more := by
  induction h with
  | nil => exact .nil
  | keep m _ ih => exact .keep m ih
  | add v hkey _ ih => exact .add v (hle _ hkey) ih

theorem Grows.valuesOf_eq (h : Grows allowed members more) {name : String}
    (hname : ¬ allowed name) : valuesOf name more = valuesOf name members := by
  induction h with
  | nil => rfl
  | keep m _ ih => rw [valuesOf, valuesOf, ih]
  | add v hkey _ ih =>
    rw [valuesOf, if_neg, ih]
    rintro rfl
    exact hname hkey

theorem Grows.valuesOf_sublist (h : Grows allowed members more) (name : String) :
    (valuesOf name members).Sublist (valuesOf name more) := by
  induction h with
  | nil => exact List.Sublist.refl _
  | keep m _ ih =>
    rw [valuesOf, valuesOf]
    split
    · exact ih.cons_cons _
    · exact ih
  | add v _ _ ih =>
    rw [valuesOf]
    split
    · exact ih.cons _
    · exact ih

end Grows

namespace RecordForm

variable {σ α : Type} {form : RecordForm σ α}

/-- The names of the fields of a form. -/
def names (form : RecordForm σ α) : List String := form.fields.map (·.name)

theorem field?_eq_none {key : String} : form.field? key = none ↔ key ∉ form.names := by
  simp [field?, names]

/-- A record ignores members that name none of its fields. -/
theorem ofMembers?_grows {members more : List (String × Value)}
    (h : Grows (· ∉ form.names) members more) (draft : σ) :
    form.ofMembers? draft more = form.ofMembers? draft members := by
  induction h generalizing draft with
  | nil => rfl
  | keep m _ ih =>
    obtain ⟨key, v⟩ := m
    rw [ofMembers?_cons, ofMembers?_cons]
    exact congrArg _ (funext ih)
  | add v hkey _ ih =>
    rw [ofMembers?_cons, takeMember?, field?_eq_none.mpr hkey, Option.bind_some, ih]

theorem ofTree?_grows {members more : List (String × Value)}
    (h : Grows (· ∉ form.names) members more) :
    form.ofTree? (.object more) = form.ofTree? (.object members) := by
  simp only [ofTree?, ofObject?, ofMembers?_grows h]

end RecordForm

namespace Field

variable {σ : Type}

/-- A draft in which a field has got the values with its name: none or one. -/
def fill? (f : Field σ) (draft : σ) : List Value → Option σ
  | [] => some draft
  | [v] => f.take? draft v
  | _ => none

/-- A draft in which each of the fields has got its values. -/
def fillAll? (members : List (String × Value)) : List (Field σ) → σ → Option σ
  | [], draft => some draft
  | f :: fields, draft =>
    (f.fill? draft (valuesOf f.name members)).bind (fillAll? members fields)

theorem fillAll?_other (key : String) (v : Value) (members : List (String × Value))
    (fields : List (Field σ)) (h : ∀ f ∈ fields, f.name ≠ key) (draft : σ) :
    fillAll? ((key, v) :: members) fields draft = fillAll? members fields draft := by
  induction fields generalizing draft with
  | nil => rfl
  | cons f fields ih =>
    rw [fillAll?, fillAll?, valuesOf, if_neg (h f List.mem_cons_self).symm]
    exact congrArg _ (funext (ih fun g hg => h g (List.mem_cons_of_mem _ hg)))

/-- What a value can make of a field. -/
def Sets (f : Field σ) (set : σ → σ) : Prop := ∃ v, f.setFrom.ofTree? v = some set

theorem Sets.of {α : Type} {name : String} {required : Bool} {get : σ → Option α}
    {put : α → σ → σ} {shape : Shape α} {set : σ → σ}
    (h : (Field.of name required get put shape).Sets set) : ∃ a, set = put a := by
  obtain ⟨v, hv⟩ := h
  obtain ⟨a, _, rfl⟩ := Option.map_eq_some_iff.mp hv
  exact ⟨a, rfl⟩

end Field

/-- The fields of a form have different names, and setting one has no effect on the others. -/
structure RecordForm.Lawful {σ α : Type} (form : RecordForm σ α) : Prop where
  names : form.fields.Pairwise fun f g => f.name ≠ g.name
  isSet_self : ∀ f ∈ form.fields, ∀ set, f.Sets set → ∀ draft, f.isSet (set draft) = true
  isSet_other : ∀ f ∈ form.fields, ∀ g ∈ form.fields, g.name ≠ f.name →
    ∀ set, f.Sets set → ∀ draft, g.isSet (set draft) = g.isSet draft
  commute : ∀ f ∈ form.fields, ∀ g ∈ form.fields, g.name ≠ f.name →
    ∀ s, f.Sets s → ∀ t, g.Sets t → ∀ draft, s (t draft) = t (s draft)

namespace RecordForm.Lawful

variable {σ α : Type} {form : RecordForm σ α} (law : form.Lawful)

include law

theorem fill?_cons {f : Field σ} (hf : f ∈ form.fields) (draft : σ) (v : Value)
    (values : List Value) :
    f.fill? draft (v :: values) = (f.take? draft v).bind fun next => f.fill? next values := by
  cases values with
  | nil => cases ht : f.take? draft v <;> simp [Field.fill?, ht]
  | cons w rest =>
    -- A field that has been set takes no further value.
    have hset : ∀ next, f.take? draft v = some next → f.fill? next (w :: rest) = none := by
      intro next hnext
      unfold Field.take? at hnext
      split at hnext
      · contradiction
      · obtain ⟨set, hv, rfl⟩ := Option.map_eq_some_iff.mp hnext
        cases rest with
        | nil => simp [Field.fill?, Field.take?, law.isSet_self f hf set ⟨v, hv⟩]
        | cons _ _ => rfl
    cases ht : f.take? draft v with
    | none => rfl
    | some next => exact (hset next ht).symm

theorem fill?_take?_comm {f g : Field σ} (hf : f ∈ form.fields) (hg : g ∈ form.fields)
    (hne : g.name ≠ f.name) (draft : σ) (v : Value) (values : List Value) :
    (g.fill? draft values).bind (fun next => f.take? next v) =
      (f.take? draft v).bind fun next => g.fill? next values := by
  match values with
  | [] => cases ht : f.take? draft v <;> simp [Field.fill?, ht]
  | [w] =>
    simp only [Field.fill?, Field.take?]
    cases hv : f.setFrom.ofTree? v with
    | none => cases g.isSet draft <;> cases g.setFrom.ofTree? w <;> simp
    | some s =>
      have hs := law.isSet_other f hf g hg hne s ⟨v, hv⟩ draft
      cases hw : g.setFrom.ofTree? w with
      | none => cases f.isSet draft <;> simp
      | some t =>
        have ht := law.isSet_other g hg f hf hne.symm t ⟨w, hw⟩ draft
        have hcomm := law.commute f hf g hg hne s ⟨v, hv⟩ t ⟨w, hw⟩ draft
        cases hfset : f.isSet draft <;> cases hgset : g.isSet draft <;>
          simp [hs, ht, hfset, hgset, hcomm]
  | _ :: _ :: _ => cases f.take? draft v <;> rfl

/-- One more member goes to the field with its name, before or after the others. -/
theorem fillAll?_cons {f : Field σ} (hf : f ∈ form.fields) (v : Value)
    (members : List (String × Value)) (fields : List (Field σ))
    (hsub : ∀ g ∈ fields, g ∈ form.fields) (hnames : fields.Pairwise fun f g => f.name ≠ g.name)
    (hmem : f ∈ fields) (draft : σ) :
    Field.fillAll? ((f.name, v) :: members) fields draft =
      (f.take? draft v).bind (Field.fillAll? members fields) := by
  induction fields generalizing draft with
  | nil => simp at hmem
  | cons g gs ih =>
    obtain ⟨hg, hgs⟩ := List.pairwise_cons.mp hnames
    have hsub' : ∀ g ∈ gs, g ∈ form.fields := fun g hg => hsub g (List.mem_cons_of_mem _ hg)
    rcases List.mem_cons.mp hmem with rfl | hmem
    · have hrest := Field.fillAll?_other f.name v members gs fun g hmem => (hg g hmem).symm
      rw [Field.fillAll?, valuesOf, if_pos rfl, law.fill?_cons hf, funext hrest, Option.bind_assoc]
      rfl
    · have hne : g.name ≠ f.name := hg f hmem
      rw [Field.fillAll?, valuesOf, if_neg hne.symm, funext (ih hsub' hgs hmem),
        ← Option.bind_assoc, law.fill?_take?_comm hf (hsub g List.mem_cons_self) hne,
        Option.bind_assoc]
      rfl

/-- A record is collected field by field. -/
theorem ofMembers?_eq_fillAll? (members : List (String × Value)) (draft : σ) :
    form.ofMembers? draft members = Field.fillAll? members form.fields draft := by
  induction members generalizing draft with
  | nil =>
    have hfill (fields : List (Field σ)) : Field.fillAll? [] fields draft = some draft := by
      induction fields with
      | nil => rfl
      | cons f fields ih => rw [Field.fillAll?, valuesOf, Field.fill?, Option.bind_some, ih]
    rw [hfill]
    rfl
  | cons m members ih =>
    obtain ⟨key, v⟩ := m
    rw [ofMembers?_cons, takeMember?, funext ih]
    cases hf : form.field? key with
    | none =>
      have hother : ∀ f ∈ form.fields, f.name ≠ key := by
        intro f hmem
        simpa using List.find?_eq_none.mp hf f hmem
      rw [Option.bind_some, Field.fillAll?_other key v members form.fields hother]
    | some f =>
      have hmem := form.mem_fields_of_field? hf
      have hname : f.name = key := by simpa using List.find?_some hf
      subst hname
      exact (law.fillAll?_cons hmem v members form.fields (fun _ hg => hg) law.names hmem
        draft).symm

end RecordForm.Lawful

end AccountPortal.Json
