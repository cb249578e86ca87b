import AccountPortal.Proofs.Json.Members

/-!
Members in normal form. They are ordered by key without repetition, and a key is
found there with the value that it has last among the members as they came.
-/
namespace AccountPortal.Json.Value

/-- Each key comes before the keys of the members after it. -/
def Ordered (members : List (String × Value)) : Prop := members.Pairwise fun a b => a.1 < b.1

theorem lastMember?_cons (key name : String) (v : Value) (rest : List (String × Value)) :
    lastMember? name ((key, v) :: rest) =
      (lastMember? name rest).or (if key = name then some v else none) := by
  rw [lastMember?]
  cases lastMember? name rest <;> rfl

/-- A name that comes before all members is none of theirs. -/
theorem lastMember?_of_lt {name : String} {members : List (String × Value)}
    (h : ∀ m ∈ members, name < m.1) : lastMember? name members = none := by
  induction members with
  | nil => rfl
  | cons m rest ih =>
    obtain ⟨key, v⟩ := m
    have hkey : key ≠ name := by
      rintro rfl
      exact String.lt_irrefl key (h (key, v) List.mem_cons_self)
    rw [lastMember?_cons, ih fun m hm => h m (List.mem_cons_of_mem _ hm), if_neg hkey]
    rfl

theorem mem_insertMember {key : String} {v : Value} {members : List (String × Value)}
    {m : String × Value} (h : m ∈ insertMember key v members) : m = (key, v) ∨ m ∈ members := by
  induction members with
  | nil => exact Or.inl (List.mem_singleton.mp h)
  | cons first rest ih =>
    obtain ⟨k, w⟩ := first
    rw [insertMember] at h
    split at h
    · exact List.mem_cons.mp h
    · split at h
      · rcases List.mem_cons.mp h with h | h
        · exact Or.inl h
        · exact Or.inr (List.mem_cons_of_mem _ h)
      · rcases List.mem_cons.mp h with h | h
        · exact Or.inr (h ▸ List.mem_cons_self)
        · exact (ih h).imp_right (List.mem_cons_of_mem _)

section Insert

variable {key : String} {v : Value} {members : List (String × Value)}

theorem Ordered.insertMember (h : Ordered members) : Ordered (insertMember key v members) := by
  induction members with
  | nil => exact List.pairwise_singleton _ _
  | cons first rest ih =>
    obtain ⟨k, w⟩ := first
    obtain ⟨hfirst, hrest⟩ := List.pairwise_cons.mp h
    rw [Value.insertMember]
    split
    · rename_i hlt
      refine List.pairwise_cons.mpr ⟨?_, h⟩
      intro m hm
      rcases List.mem_cons.mp hm with rfl | hm
      · exact hlt
      · exact String.lt_trans hlt (hfirst m hm)
    · rename_i hnlt
      split
      · rename_i heq
        subst heq
        exact List.pairwise_cons.mpr ⟨hfirst, hrest⟩
      · rename_i hne
        refine List.pairwise_cons.mpr ⟨?_, ih hrest⟩
        intro m hm
        have hgt : k < key := by
          by_cases hgt : k < key
          · exact hgt
          · exact absurd (String.le_antisymm (String.not_lt.mp hgt) (String.not_lt.mp hnlt)) hne
        rcases mem_insertMember hm with rfl | hm
        · exact hgt
        · exact hfirst m hm

theorem lastMember?_insertMember (h : Ordered members) (name : String) :
    lastMember? name (insertMember key v members) =
      if key = name then some v else lastMember? name members := by
  induction members with
  | nil => rfl
  | cons first rest ih =>
    obtain ⟨k, w⟩ := first
    obtain ⟨hfirst, hrest⟩ := List.pairwise_cons.mp h
    rw [Value.insertMember]
    split
    · rename_i hlt
      rw [lastMember?_cons key]
      by_cases hname : key = name
      · subst hname
        have hnone : lastMember? key ((k, w) :: rest) = none := by
          apply lastMember?_of_lt
          intro m hm
          rcases List.mem_cons.mp hm with rfl | hm
          · exact hlt
          · exact String.lt_trans hlt (hfirst m hm)
        simp [hnone]
      · simp [hname]
    · split
      · rename_i heq
        subst heq
        rw [lastMember?_cons key name v, lastMember?_cons key name w]
        by_cases hname : key = name
        · subst hname
          simp [lastMember?_of_lt hfirst]
        · simp [hname]
      · rw [lastMember?_cons k, lastMember?_cons k, ih hrest]
        by_cases hname : key = name <;> simp [hname]

end Insert

theorem lastMember?_foldl (members done : List (String × Value)) (h : Ordered done)
    (name : String) :
    lastMember? name (members.foldl (fun done (k, v) => insertMember k v done) done) =
      (lastMember? name members).or (lastMember? name done) := by
  induction members generalizing done with
  | nil => rfl
  | cons m rest ih =>
    obtain ⟨key, v⟩ := m
    rw [List.foldl_cons, ih _ h.insertMember, lastMember?_insertMember h, lastMember?_cons,
      Option.or_assoc]
    by_cases hname : key = name <;> simp [hname]

theorem lastMember?_sortMembers (name : String) (members : List (String × Value)) :
    lastMember? name (sortMembers members) = lastMember? name members := by
  rw [sortMembers, lastMember?_foldl members [] List.Pairwise.nil]
  exact Option.or_none

theorem lastMember?_normalMembers (name : String) (members : List (String × Value)) :
    lastMember? name (normalMembers members) = (lastMember? name members).map normal := by
  induction members with
  | nil => rfl
  | cons m rest ih =>
    obtain ⟨key, v⟩ := m
    rw [normalMembers, lastMember?_cons, lastMember?_cons, ih]
    cases lastMember? name rest <;> by_cases hname : key = name <;> simp [hname]

theorem lastMember?_eq_getLast? (name : String) (members : List (String × Value)) :
    lastMember? name members = (valuesOf name members).getLast? := by
  induction members with
  | nil => rfl
  | cons m rest ih =>
    obtain ⟨key, v⟩ := m
    rw [lastMember?_cons, valuesOf, ih]
    split
    · cases valuesOf name rest <;> simp [List.getLast?_cons]
    · simp

theorem text?_normal (v : Value) : v.normal.text? = v.text? := by
  cases v <;> rfl

/-- Of a normal object a name yields the text of the last member that came with it. -/
theorem text?_of_normal (name : String) (members : List (String × Value)) :
    (lastMember? name (sortMembers (normalMembers members))).bind text? =
      (valuesOf name members).getLast?.bind text? := by
  rw [lastMember?_sortMembers, lastMember?_normalMembers, lastMember?_eq_getLast?]
  cases (valuesOf name members).getLast? with
  | none => rfl
  | some v => exact text?_normal v

end AccountPortal.Json.Value
