import AccountPortal.Proofs.Host.Numeral

/-!
What it is for a text to be an address, apart from any reader that finds out: four bytes
with dots between them, or eight groups with colons between them, where four bytes may
stand for the last two groups and a double colon for one or more groups of zeros. The
reader takes in exactly these texts. It tries four bytes before each group, so what a
group is followed by has to be known before it is read.
-/
namespace AccountPortal.Host.Address

/-- Groups with a colon between each two. In mixed text four bytes stand for the last two. -/
inductive GroupsText : (mixed : Bool) → List Char → List UInt16 → Prop where
  | last {s : List Char} {g : UInt16} : GroupText s g → GroupsText false s [g]
  | bytes (a b c d : UInt8) : GroupsText true (writeBytes a b c d) [groupOf a b, groupOf c d]
  | cons {mixed : Bool} {s t : List Char} {g : UInt16} {gs : List UInt16} : GroupText s g →
      GroupsText mixed t gs → GroupsText mixed (s ++ ':' :: t) (g :: gs)

/-- Groups on one side of a double colon. There may be none. -/
inductive Side : (mixed : Bool) → List Char → List UInt16 → Prop where
  | empty : Side false [] []
  | groups {mixed : Bool} {s : List Char} {gs : List UInt16} : GroupsText mixed s gs →
      Side mixed s gs

/-- A text spells an address. -/
inductive Spells : List Char → Address → Prop where
  | bytes (a b c d : UInt8) : Spells (writeBytes a b c d) (.v4 a b c d)
  | full {mixed : Bool} {s : List Char} {groups : List UInt16} (h : groups.length = 8) :
      GroupsText mixed s groups → Spells s (.v6 ⟨groups, h⟩)
  | short {mixed : Bool} {s t : List Char} {head tail : List UInt16} (n : Nat)
      (h : (head ++ List.replicate (n + 1) 0 ++ tail).length = 8) :
      Side false s head → Side mixed t tail →
      Spells (s ++ ':' :: ':' :: t) (.v6 ⟨head ++ List.replicate (n + 1) 0 ++ tail, h⟩)

variable {s t rest : List Char} {g : UInt16} {gs : List UInt16} {mixed : Bool} {limit : Nat}

theorem readChar_eq_some_iff {c : Char} : readChar c s = some rest ↔ s = c :: rest := by
  cases s with
  | nil => simp [readChar]
  | cons d s =>
    by_cases hd : d = c
    · simp [readChar, hd]
    · simp [readChar, hd]

theorem endsDigits_dot (rest : List Char) : EndsDigits Unsigned.digit? ('.' :: rest) := by
  intro c hc
  obtain rfl : '.' = c := by simpa using hc
  decide

theorem readBytes_eq_some_iff {a b c d : UInt8} :
    readBytes s = some ((a, b, c, d), rest) ↔
      s = writeBytes a b c d ++ rest ∧ EndsDigits Unsigned.digit? rest := by
  simp only [readBytes, Option.bind_eq_bind, Option.bind_eq_some_iff, Prod.exists,
    readChar_eq_some_iff, readByte_eq_some_iff, Option.pure_def, Option.some.injEq,
    Prod.mk.injEq]
  constructor
  · rintro ⟨_, s₁, ⟨rfl, _⟩, _, rfl, _, s₂, ⟨rfl, _⟩, _, rfl, _, s₃, ⟨rfl, _⟩, _, rfl, _, s₄,
      ⟨rfl, hend⟩, ⟨rfl, rfl, rfl, rfl⟩, rfl⟩
    exact ⟨by simp [writeBytes], hend⟩
  · rintro ⟨rfl, hend⟩
    refine ⟨a, _, ⟨by simp [writeBytes], endsDigits_dot _⟩, _, rfl, b, _,
      ⟨rfl, endsDigits_dot _⟩, _, rfl, c, _, ⟨rfl, endsDigits_dot _⟩, _, rfl, d, rest,
      ⟨rfl, hend⟩, ⟨rfl, rfl, rfl, rfl⟩, rfl⟩

theorem digit?_of_hexDigit? {c : Char} (h : Text.hexDigit? c = none) :
    Unsigned.digit? c = none := by
  unfold Text.hexDigit? at h
  split at h
  · contradiction
  · rename_i hrange
    exact if_neg hrange

theorem GroupText.hexDigit (h : GroupText s g) : ∀ c ∈ s, (Text.hexDigit? c).isSome := by
  obtain ⟨ds, hds, _⟩ := h
  intro c hc
  have hmem : Text.hexDigit? c ∈ ds.map some := hds ▸ List.mem_map_of_mem hc
  obtain ⟨d, _, hd⟩ := List.mem_map.mp hmem
  rw [← hd]
  rfl

/-- The characters before the first dot are the digits of a byte. -/
theorem readBytes_eq_none (hs : ∀ c ∈ s, (Text.hexDigit? c).isSome)
    (hdigit : EndsDigits Text.hexDigit? rest) (hdot : ∀ c ∈ rest.head?, c ≠ '.') :
    readBytes (s ++ rest) = none := by
  rw [Option.eq_none_iff_forall_ne_some]
  rintro ⟨⟨a, b, c, d⟩, left⟩ h
  obtain ⟨heq, _⟩ := readBytes_eq_some_iff.mp h
  simp only [writeBytes, List.append_assoc, List.cons_append] at heq
  rcases List.append_eq_append_iff.mp heq with ⟨more, hmore, hrest⟩ | ⟨more, hmore, hrest⟩
  · -- The digits of the byte go on behind the group, or a dot follows at once.
    cases more with
    | nil => exact hdot '.' (by rw [hrest]; rfl) rfl
    | cons e more =>
      have hnone := digit?_of_hexDigit? (hdigit e (by rw [hrest]; rfl))
      have he : e ∈ decimal a.toNat := hmore ▸ List.mem_append_right _ List.mem_cons_self
      rw [Unsigned.digit?_eq_ite, if_pos (isDigit_of_mem_decimal he)] at hnone
      contradiction
  · -- The dot would be a part of the group.
    cases more with
    | nil =>
      exact hdot '.' (by rw [← List.nil_append rest, ← hrest]; rfl) rfl
    | cons e more =>
      obtain rfl : '.' = e := (List.cons.inj hrest).1
      have hsome := hs '.' (hmore ▸ List.mem_append_right _ List.mem_cons_self)
      exact absurd hsome (by decide)

/-- The groups that a text without a colon in front begins with, if there is one. -/
def readSome (limit : Nat) (s : List Char) : Option (List UInt16 × Bool × List Char) :=
  match (if 1 ≤ limit then readBytes s else none) with
  | some ((a, b, c, d), rest) => some ([groupOf a b, groupOf c d], true, rest)
  | none => (readGroup s).map fun (g, rest) =>
    let (gs, mixed, rest) := readGroups limit false rest
    (g :: gs, mixed, rest)

theorem readGroups_first : readGroups (limit + 1) true s =
    (readSome limit s).getD ([], false, s) := by
  rw [readGroups, readSome]
  cases hbytes : (if 1 ≤ limit then readBytes s else none) with
  | some r => simp [hbytes]
  | none => cases hgroup : readGroup s <;> simp [hbytes, hgroup]

theorem readGroups_next : readGroups (limit + 1) false s =
    ((readChar ':' s).bind (readSome limit)).getD ([], false, s) := by
  rw [readGroups]
  cases readChar ':' s with
  | none => simp
  | some inner =>
    rw [Option.bind_some, readSome]
    cases hbytes : (if 1 ≤ limit then readBytes inner else none) with
    | some r => simp [hbytes]
    | none => cases hgroup : readGroup inner <;> simp [hbytes, hgroup]

theorem GroupsText.ne_nil (h : GroupsText mixed s gs) : gs ≠ [] := by
  cases h <;> simp

/-- The groups that are read have been spelled. -/
theorem groupsText_of_readSome (h : readSome limit s = some (gs, mixed, rest)) :
    ∃ text, s = text ++ rest ∧ GroupsText mixed text gs ∧ gs.length ≤ limit + 1 := by
  induction limit generalizing s gs mixed rest with
  | zero =>
    obtain ⟨⟨g, left⟩, hgroup, heq⟩ := Option.map_eq_some_iff.mp h
    obtain ⟨text, rfl, htext, _⟩ := readGroup_eq_some_iff.mp hgroup
    cases heq
    exact ⟨text, rfl, .last htext, Nat.le_refl 1⟩
  | succ limit ih =>
    rw [readSome, if_pos (Nat.le_add_left 1 limit)] at h
    split at h
    · rename_i a b c d left hbytes
      obtain ⟨rfl, _⟩ := readBytes_eq_some_iff.mp hbytes
      cases h
      exact ⟨_, rfl, .bytes a b c d, by simp⟩
    · obtain ⟨⟨g, left⟩, hgroup, heq⟩ := Option.map_eq_some_iff.mp h
      obtain ⟨text, rfl, htext, _⟩ := readGroup_eq_some_iff.mp hgroup
      simp only [readGroups_next] at heq
      cases hmore : (readChar ':' left).bind (readSome limit) with
      | none =>
        rw [hmore] at heq
        cases heq
        exact ⟨text, rfl, .last htext, by simp⟩
      | some r =>
        obtain ⟨hs, m, left'⟩ := r
        rw [hmore] at heq
        cases heq
        obtain ⟨inner, hcolon, hread⟩ := Option.bind_eq_some_iff.mp hmore
        obtain rfl := readChar_eq_some_iff.mp hcolon
        obtain ⟨more, rfl, hgroups, hlength⟩ := ih hread
        exact ⟨text ++ ':' :: more, by simp, .cons htext hgroups, by simpa using hlength⟩

/-- What may follow groups: nothing, or a double colon. -/
def EndsGroups (rest : List Char) : Prop := rest = [] ∨ ∃ t, rest = ':' :: ':' :: t

theorem readSome_colon (limit : Nat) (t : List Char) : readSome limit (':' :: t) = none := by
  have hcolon : EndsDigits Text.hexDigit? (':' :: t) := by
    intro c hc
    obtain rfl : ':' = c := by simpa using hc
    decide
  have hbytes : readBytes (':' :: t) = none :=
    readBytes_eq_none (s := []) (by simp) hcolon (by simp)
  have hgroup : readGroup (':' :: t) = none := by
    have htake : takeDigits Text.hexDigit? (':' :: t) = ([], ':' :: t) :=
      takeDigits_eq_iff.mpr ⟨[], rfl, rfl, hcolon⟩
    simp [readGroup, htake]
  simp [readSome, hbytes, hgroup]

theorem EndsGroups.readGroups (h : EndsGroups rest) (limit : Nat) :
    readGroups limit false rest = ([], false, rest) := by
  cases limit with
  | zero => rfl
  | succ limit =>
    rw [readGroups_next]
    rcases h with rfl | ⟨t, rfl⟩
    · rfl
    · simp [readChar, readSome_colon]

theorem EndsGroups.head? (h : EndsGroups rest) : ∀ c ∈ rest.head?, c = ':' := by
  rcases h with rfl | ⟨t, rfl⟩ <;> simp

theorem endsDigits_of_colon (h : ∀ c ∈ rest.head?, c = ':') : EndsDigits Text.hexDigit? rest := by
  intro c hc
  rw [h c hc]
  decide

/-- A group that nothing or a colon follows is read as a group. -/
theorem readSome_group (hs : GroupText s g) (hrest : ∀ c ∈ rest.head?, c = ':') (limit : Nat) :
    readSome limit (s ++ rest) =
      let (gs, mixed, left) := readGroups limit false rest
      some (g :: gs, mixed, left) := by
  have hend := endsDigits_of_colon hrest
  have hbytes : readBytes (s ++ rest) = none := by
    apply readBytes_eq_none hs.hexDigit hend
    intro c hc
    rw [hrest c hc]
    decide
  have hgroup := readGroup_eq_some_iff.mpr ⟨s, rfl, hs, hend⟩
  simp [readSome, hbytes, hgroup]

/-- Groups that are spelled are read, unless there are too many of them. -/
theorem GroupsText.readSome (h : GroupsText mixed s gs) (hlimit : gs.length ≤ limit + 1)
    (hend : EndsGroups rest) : readSome limit (s ++ rest) = some (gs, mixed, rest) := by
  induction h generalizing limit with
  | last hs => rw [readSome_group hs hend.head?, hend.readGroups]
  | bytes a b c d =>
    have hlimit : 1 ≤ limit := by simpa using hlimit
    have hdigits : EndsDigits Unsigned.digit? rest := fun c hc =>
      digit?_of_hexDigit? (endsDigits_of_colon hend.head? c hc)
    have hbytes : readBytes (writeBytes a b c d ++ rest) = some ((a, b, c, d), rest) :=
      readBytes_eq_some_iff.mpr ⟨rfl, hdigits⟩
    simp [Address.readSome, hlimit, hbytes]
  | cons hs hgroups ih =>
    rename_i t g gs
    obtain ⟨n, rfl⟩ : ∃ n, limit = n + 1 := by
      have := List.length_pos_iff.mpr hgroups.ne_nil
      exact ⟨limit - 1, by simp at hlimit; omega⟩
    have hmore := ih (by simpa using hlimit)
    rw [List.append_assoc, List.cons_append, readSome_group hs (by simp), readGroups_next]
    simp [readChar, hmore]

theorem Side.of_readGroups (h : readGroups limit true s = (gs, mixed, rest)) :
    ∃ text, s = text ++ rest ∧ Side mixed text gs ∧ gs.length ≤ limit := by
  cases limit with
  | zero =>
    cases h
    exact ⟨[], rfl, .empty, Nat.le_refl 0⟩
  | succ limit =>
    rw [readGroups_first] at h
    cases hread : readSome limit s with
    | none =>
      rw [hread] at h
      cases h
      exact ⟨[], rfl, .empty, Nat.zero_le _⟩
    | some r =>
      rw [hread] at h
      obtain rfl : r = _ := h
      obtain ⟨text, hs, htext, hlength⟩ := groupsText_of_readSome hread
      exact ⟨text, hs, .groups htext, hlength⟩

theorem Side.readGroups (h : Side mixed s gs) (hlimit : gs.length ≤ limit)
    (hend : EndsGroups rest) : readGroups limit true (s ++ rest) = (gs, mixed, rest) := by
  cases h with
  | empty =>
    cases limit with
    | zero => rfl
    | succ limit =>
      rw [readGroups_first, List.nil_append]
      rcases hend with rfl | ⟨t, rfl⟩
      · have hgroup : readGroup [] = none := rfl
        have hbytes : readBytes [] = none := rfl
        simp [readSome, hgroup, hbytes]
      · rw [readSome_colon]
        rfl
  | groups h =>
    obtain ⟨n, rfl⟩ : ∃ n, limit = n + 1 := by
      have := List.length_pos_iff.mpr h.ne_nil
      exact ⟨limit - 1, by omega⟩
    rw [readGroups_first, h.readSome hlimit hend]
    rfl

theorem ofGroups?_eq_some_iff {groups : List UInt16} {a : Address} :
    ofGroups? groups = some a ↔ ∃ h : groups.length = 8, a = .v6 ⟨groups, h⟩ := by
  unfold ofGroups?
  split
  · rename_i h
    simp [h, eq_comm]
  · rename_i h
    simp [h]

theorem spells_of_readV6 {a : Address} (h : readV6 s = some (a, [])) : Spells s a := by
  rcases hhead : readGroups 8 true s with ⟨head, mixed, rest⟩
  obtain ⟨text, rfl, hside, _⟩ := Side.of_readGroups hhead
  rw [readV6, hhead] at h
  simp only at h
  split at h
  · rename_i height
    obtain ⟨a', ha, heq⟩ := Option.map_eq_some_iff.mp h
    cases heq
    obtain ⟨_, rfl⟩ := ofGroups?_eq_some_iff.mp ha
    rw [List.append_nil]
    cases hside with
    | empty => cases height
    | groups hgroups => exact .full height hgroups
  · split at h
    · contradiction
    · rename_i hshort hplain
      simp only [Option.bind_eq_bind, Option.bind_eq_some_iff, readChar_eq_some_iff] at h
      obtain ⟨_, rfl, tailText, rfl, hread⟩ := h
      rcases htail : readGroups (7 - head.length) true tailText with ⟨tail, mixed', left⟩
      obtain ⟨text', rfl, hside', hlength⟩ := Side.of_readGroups htail
      rw [htail] at hread
      obtain ⟨a', ha, heq⟩ := Option.map_eq_some_iff.mp hread
      cases heq
      obtain ⟨height, rfl⟩ := ofGroups?_eq_some_iff.mp ha
      obtain rfl : mixed = false := by simpa using hplain
      -- Fewer than eight groups were read in all, so the colons stand for at least one.
      obtain ⟨n, hn⟩ : ∃ n, 8 - head.length - tail.length = n + 1 := by
        simp only [List.length_append, List.length_replicate] at height
        exact ⟨8 - head.length - tail.length - 1, by omega⟩
      rw [List.append_nil]
      simp only [hn] at height ⊢
      exact .short n height hside hside'

theorem Spells.readV6 {groups : { l : List UInt16 // l.length = 8 }} (h : Spells s (.v6 groups)) :
    readV6 s = some (.v6 groups, []) := by
  cases h with
  | full height hgroups =>
    have hhead := (Side.groups hgroups).readGroups (Nat.le_of_eq height) (Or.inl rfl)
    rw [List.append_nil] at hhead
    simp [Address.readV6, hhead, height, ofGroups?]
  | short n height hhead htail =>
    rename_i s t head tail
    have hlength : head.length + (n + 1) + tail.length = 8 := by simpa [Nat.add_assoc] using height
    have hfirst := hhead.readGroups (show head.length ≤ 8 by omega) (Or.inr ⟨t, rfl⟩)
    have hsecond := htail.readGroups (show tail.length ≤ 7 - head.length by omega) (Or.inl rfl)
    rw [List.append_nil] at hsecond
    have hzeros : 8 - head.length - tail.length = n + 1 := by omega
    have hne : head.length ≠ 8 := by omega
    simp [Address.readV6, hfirst, hne, readChar, hsecond, hzeros, ofGroups?]
    omega

/-- Eight groups do not begin with four bytes. -/
theorem Spells.readBytes {groups : { l : List UInt16 // l.length = 8 }}
    (h : Spells s (.v6 groups)) : readBytes s = none := by
  have hgroup {s t : List Char} {g : UInt16} (hs : GroupText s g) :
      Address.readBytes (s ++ ':' :: t) = none :=
    readBytes_eq_none hs.hexDigit (endsDigits_of_colon (by simp)) (by simp)
  cases h with
  | full height hgroups =>
    cases hgroups with
    | last | bytes => simp at height
    | cons hs _ => exact hgroup hs
  | short n height hhead htail =>
    cases hhead with
    | empty => exact readBytes_eq_none (s := []) (by simp) (endsDigits_of_colon (by simp)) (by simp)
    | groups hgroups =>
      cases hgroups with
      | last hs => exact hgroup hs
      | cons hs _ =>
        rw [List.append_assoc]
        exact hgroup hs

/-- A text is read as an address exactly if it spells the address. -/
theorem parse?_eq_some_iff {a : Address} : parse? s = some a ↔ Spells s a := by
  constructor
  · intro h
    have hread : read s = some (a, []) := by
      unfold parse? at h
      split at h
      · rename_i b hread
        rw [hread, Option.some.inj h]
      · contradiction
    unfold read at hread
    split at hread
    · rename_i b₁ b₂ b₃ b₄ rest hbytes
      cases hread
      obtain ⟨rfl, _⟩ := readBytes_eq_some_iff.mp hbytes
      rw [List.append_nil]
      exact .bytes b₁ b₂ b₃ b₄
    · exact spells_of_readV6 hread
  · intro h
    cases a with
    | v4 b₁ b₂ b₃ b₄ =>
      cases h
      have hbytes : Address.readBytes (writeBytes b₁ b₂ b₃ b₄) = some ((b₁, b₂, b₃, b₄), []) :=
        readBytes_eq_some_iff.mpr ⟨(List.append_nil _).symm, by simp [EndsDigits]⟩
      simp [parse?, read, hbytes]
    | v6 groups => simp [parse?, read, h.readBytes, h.readV6]

end AccountPortal.Host.Address
