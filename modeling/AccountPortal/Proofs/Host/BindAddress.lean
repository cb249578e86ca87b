import AccountPortal.Proofs.Host.Variables

/-!
An address and a port are read back from what they are written as. The text of an address
is one of the texts that spell it: the longest run of zeros is left out around a double
colon, and an embedded address of four bytes stands for the last two groups. No text that
spells an address has a blank or a bracket in it, so the address can be cut out of what the
server listens on.
-/
namespace AccountPortal.Host.Address

theorem replicate_zerosAhead_drop (groups : List UInt16) :
    List.replicate (zerosAhead groups) 0 ++ groups.drop (zerosAhead groups) = groups := by
  induction groups with
  | nil => rfl
  | cons g rest ih =>
    by_cases hg : g = 0
    · rw [zerosAhead, if_pos hg, List.replicate_succ, List.cons_append, List.drop_succ_cons, ih, hg]
    · simp [zerosAhead, hg]

/-- The longest run of zeros stands where it is said to start. -/
theorem take_longestZeros_drop (groups : List UInt16) :
    groups.take (longestZeros groups).1 ++ List.replicate (longestZeros groups).2 0 ++
      groups.drop ((longestZeros groups).1 + (longestZeros groups).2) = groups := by
  induction groups with
  | nil => rfl
  | cons g rest ih =>
    by_cases hhere : (longestZeros rest).2 ≤ zerosAhead (g :: rest)
    · have hlongest : longestZeros (g :: rest) = (0, zerosAhead (g :: rest)) := by
        simp [longestZeros, hhere]
      simpa [hlongest] using replicate_zerosAhead_drop (g :: rest)
    · have hlongest : longestZeros (g :: rest) =
          ((longestZeros rest).1 + 1, (longestZeros rest).2) := by
        simp [longestZeros, hhere]
      have hstart (start length : Nat) : start + 1 + length = start + length + 1 := by omega
      simpa [hlongest, hstart] using ih

theorem groupsText_writeGroups {gs : List UInt16} (h : gs ≠ []) :
    GroupsText false (writeGroups gs) gs := by
  induction gs with
  | nil => contradiction
  | cons g rest ih =>
    cases rest with
    | nil => exact .last (groupText_hexDigits g)
    | cons g' rest => exact .cons (groupText_hexDigits g) (ih (by simp))

theorem side_writeGroups (gs : List UInt16) : Side false (writeGroups gs) gs := by
  cases gs with
  | nil => exact .empty
  | cons g rest => exact .groups (groupsText_writeGroups (by simp))

theorem groupOf_bytesOf (g : UInt16) : groupOf (bytesOf g).1 (bytesOf g).2 = g := by
  have hg := g.toNat_lt
  have hhigh : g.toNat >>> 8 < 2 ^ 8 := by
    rw [Nat.shiftRight_eq_div_pow]
    omega
  apply UInt16.toNat_inj.mp
  calc (groupOf (bytesOf g).1 (bytesOf g).2).toNat
      = (g.toNat >>> 8 % 2 ^ 8) <<< 8 % 2 ^ 16 ||| g.toNat % 2 ^ 8 := by
        simp [groupOf, bytesOf]
    _ = (g.toNat >>> 8) <<< 8 ||| g.toNat % 2 ^ 8 := by
        rw [Nat.mod_eq_of_lt hhigh, Nat.shiftLeft_eq, Nat.mod_eq_of_lt (by omega)]
    _ = (g.toNat >>> 8) <<< 8 + g.toNat % 2 ^ 8 :=
        (Nat.shiftLeft_add_eq_or_of_lt (Nat.mod_lt _ (by decide)) _).symm
    _ = g.toNat := by
        rw [Nat.shiftLeft_eq, Nat.shiftRight_eq_div_pow]
        omega

theorem spells_write (a : Address) : Spells a.write a := by
  cases a with
  | v4 a b c d => exact .bytes a b c d
  | v6 groups =>
    obtain ⟨groups, height⟩ := groups
    unfold write
    dsimp only
    split
    · rename_i g h height
      have hembedded := GroupsText.bytes (bytesOf g).1 (bytesOf g).2 (bytesOf h).1 (bytesOf h).2
      rw [groupOf_bytesOf, groupOf_bytesOf] at hembedded
      exact .short 4 height .empty (.groups (.cons (groupText_hexDigits 0xFFFF) hembedded))
    · by_cases hlong : 1 < (longestZeros groups).2
      · obtain ⟨n, hn⟩ : ∃ n, (longestZeros groups).2 = n + 1 :=
          ⟨(longestZeros groups).2 - 1, by omega⟩
        have hgroups := take_longestZeros_drop groups
        rw [hn] at hgroups
        have hshort := Spells.short n (by rw [hgroups, height])
          (side_writeGroups (groups.take (longestZeros groups).1))
          (side_writeGroups (groups.drop ((longestZeros groups).1 + (n + 1))))
        rw [if_pos hlong, hn]
        simpa only [hgroups] using hshort
      · have hne : groups ≠ [] := by
          rintro rfl
          contradiction
        rw [if_neg hlong]
        exact .full height (groupsText_writeGroups hne)

/-- An address is read back from its standard text. -/
theorem parse?_write (a : Address) : parse? a.write = some a :=
  parse?_eq_some_iff.mpr (spells_write a)

theorem write_inj {a b : Address} (h : a.write = b.write) : a = b := by
  have hread := parse?_write a
  rw [h, parse?_write b] at hread
  exact (Option.some.inj hread).symm

theorem write_ne_nil (a : Address) : a.write ≠ [] := by
  intro hnil
  have hread := parse?_write a
  rw [hnil] at hread
  contradiction

/-- A character that stands in the text of an address. -/
def Stands (c : Char) : Prop :=
  (Text.hexDigit? c).isSome = true ∨ c = ':' ∨ c = '.'

theorem stands_of_isDigit {c : Char} (h : c.isDigit = true) : Stands c := by
  have hdigit := Unsigned.digit?_eq_ite c
  rw [if_pos h] at hdigit
  refine Or.inl (Option.isSome_iff_ne_none.mpr fun hnone => ?_)
  rw [digit?_of_hexDigit? hnone] at hdigit
  contradiction

theorem stands_of_mem_writeBytes {a b c d : UInt8} : ∀ x ∈ writeBytes a b c d, Stands x := by
  have hdecimal (n : Nat) : ∀ x ∈ decimal n, Stands x :=
    fun x hx => stands_of_isDigit (isDigit_of_mem_decimal hx)
  have hdot : Stands '.' := Or.inr (Or.inr rfl)
  simp only [writeBytes, List.forall_mem_append, List.forall_mem_cons]
  exact ⟨⟨⟨hdecimal _, hdot, hdecimal _⟩, hdot, hdecimal _⟩, hdot, hdecimal _⟩

variable {s : List Char} {gs : List UInt16} {mixed : Bool} {a : Address}

theorem GroupsText.stands (h : GroupsText mixed s gs) : ∀ x ∈ s, Stands x := by
  induction h with
  | last hs => exact fun x hx => Or.inl (hs.hexDigit x hx)
  | bytes a b c d => exact stands_of_mem_writeBytes
  | cons hs _ ih =>
    rw [List.forall_mem_append, List.forall_mem_cons]
    exact ⟨fun x hx => Or.inl (hs.hexDigit x hx), Or.inr (Or.inl rfl), ih⟩

theorem Side.stands (h : Side mixed s gs) : ∀ x ∈ s, Stands x := by
  cases h with
  | empty => exact nofun
  | groups h => exact h.stands

theorem Spells.stands (h : Spells s a) : ∀ x ∈ s, Stands x := by
  have hcolon : Stands ':' := Or.inr (Or.inl rfl)
  cases h with
  | bytes => exact stands_of_mem_writeBytes
  | full _ hgroups => exact hgroups.stands
  | short _ _ hhead htail =>
    rw [List.forall_mem_append, List.forall_mem_cons, List.forall_mem_cons]
    exact ⟨hhead.stands, hcolon, hcolon, htail.stands⟩

theorem Stands.toNat_bounds {c : Char} (h : Stands c) : 46 ≤ c.toNat ∧ c.toNat ≤ 102 := by
  rcases h with h | rfl | rfl
  · obtain ⟨d, hd⟩ := Option.isSome_iff_exists.mp h
    have := hexDigit?_cases hd
    omega
  · decide
  · decide

theorem Stands.isBlank {c : Char} (h : Stands c) : Text.isBlank c = false := by
  obtain ⟨hlow, hhigh⟩ := h.toNat_bounds
  simp only [Text.isBlank, Bool.or_eq_false_iff, Bool.and_eq_false_iff, decide_eq_false_iff_not,
    beq_eq_false_iff_ne]
  omega

theorem bracket_not_mem (h : Spells s a) : ']' ∉ s := by
  intro hmem
  exact absurd (h.stands ']' hmem) (by simp [Stands]; decide)

theorem readBytes_bracket {rest : List Char} : readBytes ('[' :: rest) = none := by
  refine readBytes_eq_none (s := []) (by simp) (fun c hc => ?_) (by simp)
  obtain rfl : '[' = c := by simpa using hc
  decide

theorem decimal_inj {n m : Nat} (h : decimal n = decimal m) : n = m := by
  have hvalue := congrArg (fun ds => Nat.ofDigitChars 10 ds 0) h
  simpa [decimal] using hvalue

theorem toList_withPort_v4 (a b c d : UInt8) (port : UInt16) :
    ((v4 a b c d).withPort port).toList = writeBytes a b c d ++ ':' :: decimal port.toNat :=
  String.toList_ofList

theorem toList_withPort_v6 (groups : { l : List UInt16 // l.length = 8 }) (port : UInt16) :
    ((v6 groups).withPort port).toList =
      '[' :: (v6 groups).write ++ ']' :: ':' :: decimal port.toNat :=
  String.toList_ofList

theorem readBytes_withPort (a b c d : UInt8) (port : List Char) :
    readBytes (writeBytes a b c d ++ ':' :: port) = some ((a, b, c, d), ':' :: port) := by
  have hend : EndsDigits Text.hexDigit? (':' :: port) := endsDigits_of_colon (by simp)
  exact readBytes_eq_some_iff.mpr ⟨rfl, fun x hx => digit?_of_hexDigit? (hend x hx)⟩

/-- Only eight groups are bracketed. -/
theorem withPort_v4_ne_v6 (a b c d : UInt8) (groups : { l : List UInt16 // l.length = 8 })
    (p q : UInt16) : (v4 a b c d).withPort p ≠ (v6 groups).withPort q := by
  intro h
  have htext := congrArg readBytes (congrArg String.toList h)
  rw [toList_withPort_v4, toList_withPort_v6, readBytes_withPort, List.cons_append,
    readBytes_bracket] at htext
  contradiction

/-- The text of an address with a port determines both. -/
theorem withPort_inj {b : Address} {p q : UInt16} (h : a.withPort p = b.withPort q) :
    a = b ∧ p = q := by
  have htext := congrArg String.toList h
  have hport (hp : decimal p.toNat = decimal q.toNat) : p = q :=
    UInt16.toNat_inj.mp (decimal_inj hp)
  cases a with
  | v4 a₁ a₂ a₃ a₄ =>
    cases b with
    | v4 b₁ b₂ b₃ b₄ =>
      rw [toList_withPort_v4, toList_withPort_v4] at htext
      have hread := congrArg readBytes htext
      rw [readBytes_withPort, readBytes_withPort] at hread
      simp only [Option.some.injEq, Prod.mk.injEq, List.cons.injEq, true_and] at hread
      obtain ⟨⟨rfl, rfl, rfl, rfl⟩, hp⟩ := hread
      exact ⟨rfl, hport hp⟩
    | v6 => exact (withPort_v4_ne_v6 _ _ _ _ _ _ _ h).elim
  | v6 groups =>
    cases b with
    | v4 => exact (withPort_v4_ne_v6 _ _ _ _ _ _ _ h.symm).elim
    | v6 groups' =>
      rw [toList_withPort_v6, toList_withPort_v6, List.cons_append, List.cons_append] at htext
      have hinner := (List.cons.inj htext).2
      -- Either address ends at the first closing bracket.
      have hcut := (Text.cut?_eq_some (bracket_not_mem (spells_write _))).mpr hinner
      rw [(Text.cut?_eq_some (bracket_not_mem (spells_write _))).mpr rfl] at hcut
      simp only [Option.some.injEq, Prod.mk.injEq, List.cons.injEq, true_and] at hcut
      obtain ⟨hwrite, hp⟩ := hcut
      exact ⟨write_inj hwrite, hport hp⟩

end AccountPortal.Host.Address

namespace AccountPortal.Host.Config

open AccountPortal.Text (Padded trim)

/-- A value with blanks around it is told, if none are in it. -/
theorem tells_padded {α : Type} {Spells : List Char → α → Prop} {default a : α}
    {text raw : String} (hspells : Spells text.toList a) (hne : text.toList ≠ [])
    (hblank : ∀ c ∈ text.toList, Text.isBlank c = false) (h : Padded text raw) :
    Tells Spells default ((some raw).map trim) a := by
  rw [Option.map_some, h.trim_eq, Text.trim_of_no_blank hblank]
  exact .value (fun hempty => hne (by rw [hempty, String.toList_empty])) hspells

theorem tells_text {default : Address} (a : Address) {raw : String} (h : Padded a.text raw) :
    Tells Address.Spells default ((some raw).map trim) a := by
  have htext : a.text.toList = a.write := String.toList_ofList
  apply tells_padded _ _ _ h
  · rw [htext]
    exact Address.spells_write a
  · rw [htext]
    exact Address.write_ne_nil a
  · rw [htext]
    exact fun c hc => ((Address.spells_write a).stands c hc).isBlank

theorem tells_decimal {default : UInt16} (port : UInt16) {raw : String}
    (h : Padded (toString port.toNat) raw) :
    Tells SpellsPort default ((some raw).map trim) port := by
  have htext : (toString port.toNat).toList = Nat.toDigits 10 port.toNat := by simp
  have hdigits : ∀ c ∈ Nat.toDigits 10 port.toNat, c.isDigit = true :=
    fun c hc => Address.isDigit_of_mem_decimal hc
  apply tells_padded _ _ _ h
  · rw [htext]
    exact ⟨_, Or.inl rfl, Nat.toDigits_ne_nil, hdigits, Nat.ofDigitChars_ten_toDigits⟩
  · rw [htext]
    exact Nat.toDigits_ne_nil
  · rw [htext]
    exact fun c hc => (Address.stands_of_isDigit (hdigits c hc)).isBlank

/-- Whatever blanks are put around them, an address and a port are read back from what they
are written as. The text of where to listen determines both. -/
theorem ofLookup_written :
    (∀ (c : Config) (lookup : String → Option String) (host port : String),
      Padded c.host.text host → Padded (toString c.port.toNat) port →
      lookup "HOST" = some host → lookup "PORT" = some port → ofLookup lookup = .ok c) ∧
    Function.Injective bindAddress := by
  refine ⟨fun c lookup host port hhost hport hheld hheld' => ?_, fun c d h => ?_⟩
  · rw [ofLookup_eq_ok_iff]
    constructor
    · rw [readSetting_eq_ok_iff fun _ _ => Address.parse?_eq_some_iff]
      simpa only [Setting.name, hheld] using tells_text c.host hhost
    · rw [readSetting_eq_ok_iff fun _ _ => parsePort?_eq_some_iff]
      simpa only [Setting.name, hheld'] using tells_decimal c.port hport
  · obtain ⟨host, port⟩ := c
    obtain ⟨host', port'⟩ := d
    obtain ⟨rfl, rfl⟩ := Address.withPort_inj h
    rfl

theorem ofLookup_written_embedded :
    let c : Config := ⟨.v6 ⟨[0, 0, 0, 0, 0, 0xFFFF, 0xC000, 0x0201], rfl⟩, 8080⟩
    ofLookup (fun name => if name = "HOST" then some "\t::ffff:192.0.2.1 " else some "8080\n") =
      .ok c := by
  intro c
  have htext : c.host.text = "::ffff:192.0.2.1" := by decide +kernel
  have hhost : Padded c.host.text "\t::ffff:192.0.2.1 " :=
    ⟨['\t'], [' '], by decide, by decide, by rw [htext]; decide⟩
  have hport : Padded (toString c.port.toNat) "8080\n" :=
    ⟨[], ['\n'], by decide, by decide, by decide⟩
  exact ofLookup_written.1 c _ _ _ hhost hport (by decide) (by decide)

end AccountPortal.Host.Config
