import AccountPortal.Proofs.Json.Content
import AccountPortal.Proofs.Json.Normal

/-!
Values whose objects have distinct keys. Putting their members in order loses
nothing: the normal form is the same value but for the order of members, and
it is the very value if the members stand in order already.
-/
namespace AccountPortal.Json.Value

mutual

/-- The member lists of the objects in a value, at any depth. -/
def objects : Value → List (List (String × Value))
  | .array items => itemsObjects items
  | .object members => members :: membersObjects members
  | _ => []

def itemsObjects : List Value → List (List (String × Value))
  | [] => []
  | v :: rest => objects v ++ itemsObjects rest

def membersObjects : List (String × Value) → List (List (String × Value))
  | [] => []
  | (_, v) :: rest => objects v ++ membersObjects rest

end

/-- No object of the value has two members with one key. -/
def Distinct (v : Value) : Prop := ∀ members ∈ v.objects, (members.map (·.1)).Nodup

/-- Every object of the value has its members ordered by key. -/
def InOrder (v : Value) : Prop := ∀ members ∈ v.objects, Ordered members

mutual

/-- The same value: members may stand in another order, in objects at any depth. -/
inductive Same : Value → Value → Prop
  | refl (v : Value) : Same v v
  | array {items others : List Value} : SameItems items others → Same (.array items) (.array others)
  | object {members middle others : List (String × Value)} :
    SameMembers members middle → middle.Perm others → Same (.object members) (.object others)

inductive SameItems : List Value → List Value → Prop
  | nil : SameItems [] []
  | cons {v w : Value} {items others : List Value} :
    Same v w → SameItems items others → SameItems (v :: items) (w :: others)

inductive SameMembers : List (String × Value) → List (String × Value) → Prop
  | nil : SameMembers [] []
  | cons (key : String) {v w : Value} {members others : List (String × Value)} :
    Same v w → SameMembers members others → SameMembers ((key, v) :: members) ((key, w) :: others)

end

section Objects

variable {items : List Value} {members : List (String × Value)}

theorem mem_itemsObjects {o : List (String × Value)} :
    o ∈ itemsObjects items ↔ ∃ v ∈ items, o ∈ v.objects := by
  induction items with
  | nil => simp [itemsObjects]
  | cons v rest ih => simp [itemsObjects, ih]

theorem mem_membersObjects {o : List (String × Value)} :
    o ∈ membersObjects members ↔ ∃ m ∈ members, o ∈ m.2.objects := by
  induction members with
  | nil => simp [membersObjects]
  | cons m rest ih =>
    obtain ⟨key, v⟩ := m
    simp [membersObjects, ih]

theorem forall_objects_array {P : List (String × Value) → Prop} :
    (∀ o ∈ (Value.array items).objects, P o) ↔ ∀ v ∈ items, ∀ o ∈ v.objects, P o := by
  simp only [objects, mem_itemsObjects]
  constructor
  · exact fun h v hv o ho => h o ⟨v, hv, ho⟩
  · rintro h o ⟨v, hv, ho⟩
    exact h v hv o ho

theorem forall_objects_object {P : List (String × Value) → Prop} :
    (∀ o ∈ (Value.object members).objects, P o) ↔
      P members ∧ ∀ m ∈ members, ∀ o ∈ m.2.objects, P o := by
  simp only [objects, List.forall_mem_cons, mem_membersObjects]
  refine and_congr_right fun _ => ?_
  constructor
  · exact fun h m hm o ho => h o ⟨m, hm, ho⟩
  · rintro h o ⟨m, hm, ho⟩
    exact h m hm o ho

end Objects

theorem insertMember_perm {key : String} {v : Value} {members : List (String × Value)}
    (h : key ∉ members.map (·.1)) : (insertMember key v members).Perm ((key, v) :: members) := by
  induction members with
  | nil => exact List.Perm.refl _
  | cons first rest ih =>
    obtain ⟨k, w⟩ := first
    obtain ⟨hne, hrest⟩ : key ≠ k ∧ key ∉ rest.map (·.1) := by
      simpa only [List.map_cons, List.mem_cons, not_or] using h
    rw [insertMember, if_neg hne]
    split
    · exact List.Perm.refl _
    · exact ((ih hrest).cons (k, w)).trans (List.Perm.swap (key, v) (k, w) rest)

theorem foldl_insertMember_perm (members done : List (String × Value))
    (h : ((members ++ done).map (·.1)).Nodup) :
    (members.foldl (fun done (k, v) => insertMember k v done) done).Perm (members ++ done) := by
  induction members generalizing done with
  | nil => exact List.Perm.refl _
  | cons m rest ih =>
    obtain ⟨key, v⟩ := m
    obtain ⟨hkey, hnodup⟩ : key ∉ (rest ++ done).map (·.1) ∧ ((rest ++ done).map (·.1)).Nodup := by
      simpa only [List.cons_append, List.map_cons, List.nodup_cons] using h
    have hdone : key ∉ done.map (·.1) := by
      intro hmem
      apply hkey
      rw [List.map_append]
      exact List.mem_append_right _ hmem
    have hinsert : (rest ++ insertMember key v done).Perm ((key, v) :: (rest ++ done)) :=
      ((insertMember_perm hdone).append_left rest).trans List.perm_middle
    exact (ih _ ((hinsert.map (·.1)).nodup_iff.mpr h)).trans hinsert

theorem sortMembers_perm {members : List (String × Value)} (h : (members.map (·.1)).Nodup) :
    (sortMembers members).Perm members := by
  have hperm := foldl_insertMember_perm members [] (by rwa [List.append_nil])
  rwa [List.append_nil] at hperm

theorem insertMember_append {key : String} {v : Value} {done : List (String × Value)}
    (h : ∀ m ∈ done, m.1 < key) : insertMember key v done = done ++ [(key, v)] := by
  induction done with
  | nil => rfl
  | cons first rest ih =>
    obtain ⟨k, w⟩ := first
    have hlt : k < key := h (k, w) List.mem_cons_self
    have hne : key ≠ k := by
      rintro rfl
      exact String.lt_irrefl key hlt
    rw [insertMember, if_neg (String.lt_asymm hlt), if_neg hne,
      ih fun m hm => h m (List.mem_cons_of_mem _ hm)]
    rfl

theorem foldl_insertMember_of_ordered (members done : List (String × Value))
    (h : Ordered (done ++ members)) :
    members.foldl (fun done (k, v) => insertMember k v done) done = done ++ members := by
  induction members generalizing done with
  | nil => exact (List.append_nil done).symm
  | cons m rest ih =>
    obtain ⟨key, v⟩ := m
    have hlast : ∀ m ∈ done, m.1 < key := fun m hm =>
      (List.pairwise_append.mp h).2.2 m hm (key, v) List.mem_cons_self
    have hrest := ih (done ++ [(key, v)]) (by rwa [List.append_assoc])
    simpa only [List.foldl_cons, insertMember_append hlast, List.append_assoc, List.cons_append,
      List.nil_append] using hrest

theorem sortMembers_of_ordered {members : List (String × Value)} (h : Ordered members) :
    sortMembers members = members :=
  foldl_insertMember_of_ordered members [] h

theorem map_fst_normalMembers (members : List (String × Value)) :
    (normalMembers members).map (·.1) = members.map (·.1) := by
  induction members with
  | nil => rfl
  | cons m rest ih =>
    obtain ⟨key, v⟩ := m
    rw [normalMembers, List.map_cons, List.map_cons, ih]

theorem sameItems_normalItems {items : List Value} (h : ∀ v ∈ items, v.Same v.normal) :
    SameItems items (normalItems items) := by
  induction items with
  | nil => exact .nil
  | cons v rest ih =>
    exact .cons (h v List.mem_cons_self) (ih fun w hw => h w (List.mem_cons_of_mem _ hw))

theorem sameMembers_normalMembers {members : List (String × Value)}
    (h : ∀ m ∈ members, m.2.Same m.2.normal) : SameMembers members (normalMembers members) := by
  induction members with
  | nil => exact .nil
  | cons m rest ih =>
    obtain ⟨key, v⟩ := m
    exact .cons key (h (key, v) List.mem_cons_self)
      (ih fun n hn => h n (List.mem_cons_of_mem _ hn))

theorem same_normal {v : Value} (h : v.Distinct) : v.Same v.normal := by
  induction v using Value.induct with
  | null => exact .refl _
  | bool b => exact .refl _
  | number n => exact .refl _
  | string s => exact .refl _
  | array items ih =>
    have hitems := forall_objects_array.mp h
    exact .array (sameItems_normalItems fun v hv => ih v hv (hitems v hv))
  | object members ih =>
    obtain ⟨hkeys, hmembers⟩ := forall_objects_object.mp h
    have hperm : (sortMembers (normalMembers members)).Perm (normalMembers members) := by
      apply sortMembers_perm
      rwa [map_fst_normalMembers]
    exact .object (sameMembers_normalMembers fun m hm => ih m hm (hmembers m hm)) hperm.symm

theorem normalItems_eq_self {items : List Value} (h : ∀ v ∈ items, v.normal = v) :
    normalItems items = items := by
  induction items with
  | nil => rfl
  | cons v rest ih =>
    rw [normalItems, h v List.mem_cons_self, ih fun w hw => h w (List.mem_cons_of_mem _ hw)]

theorem normalMembers_eq_self {members : List (String × Value)}
    (h : ∀ m ∈ members, m.2.normal = m.2) : normalMembers members = members := by
  induction members with
  | nil => rfl
  | cons m rest ih =>
    obtain ⟨key, v⟩ := m
    have hv : v.normal = v := h (key, v) List.mem_cons_self
    rw [normalMembers, hv, ih fun n hn => h n (List.mem_cons_of_mem _ hn)]

theorem normal_eq_self {v : Value} (h : v.InOrder) : v.normal = v := by
  induction v using Value.induct with
  | null => rfl
  | bool b => rfl
  | number n => rfl
  | string s => rfl
  | array items ih =>
    have hitems := forall_objects_array.mp h
    rw [normal, normalItems_eq_self fun v hv => ih v hv (hitems v hv)]
  | object members ih =>
    obtain ⟨hordered, hmembers⟩ := forall_objects_object.mp h
    rw [normal, normalMembers_eq_self fun m hm => ih m hm (hmembers m hm),
      sortMembers_of_ordered hordered]

end AccountPortal.Json.Value
