import AccountPortal.Proofs.Backend.SessionRun
import AccountPortal.Proofs.Text.Pieces

/-!
The base address and the addresses of endpoints. An address loses its outer blanks
first and the slashes at its end afterwards, each once. So a blank that stands before
those slashes stays and ends the base; in every other case trimming is complete, and
trimming again changes nothing. Whatever the base, one slash joins a path to it, and
the slashes that a path begins with do not matter.
-/
namespace AccountPortal.Backend.Base

open SessionRun Text

/-- In the address, without its outer blanks, only slashes follow a blank. -/
def BlankBeforeSlashes (s : String) : Prop :=
  ∃ stem blank slashes, (trim s).toList = stem ++ blank :: slashes ∧ isBlank blank = true ∧
    ∀ c ∈ slashes, c = '/'

section Trimmed

variable (s : List Char)

theorem prefix_trimAddress : trimAddress s <+: trimChars s := prefix_dropTailWhile _

theorem head?_trimAddress : ∀ c ∈ (trimAddress s).head?, isBlank c = false := by
  intro c hc
  obtain ⟨tail, htail⟩ := prefix_trimAddress s
  apply head?_trimChars s
  rw [← htail, List.head?_append, Option.mem_def.mp hc]
  rfl

theorem getLast?_trimAddress : ∀ c ∈ (trimAddress s).getLast?, c ≠ '/' := by
  intro c hc
  have hslash := getLast?_dropTailWhile (trimChars s) c hc
  simpa using hslash

/-- What is trimmed already is kept. -/
theorem trimAddress_of_ends {s : List Char} (hhead : ∀ c ∈ s.head?, isBlank c = false)
    (hblank : ∀ c ∈ s.getLast?, isBlank c = false) (hslash : ∀ c ∈ s.getLast?, c ≠ '/') :
    trimAddress s = s := by
  rw [trimAddress, trimChars_of_ends hhead hblank, dropTailWhile_of_getLast?]
  intro c hc
  simpa using hslash c hc

/-- A blank at the end is trimmed. -/
theorem length_trimAddress_lt {s : List Char} {c : Char} (hc : c ∈ s.getLast?)
    (hblank : isBlank c = true) : (trimAddress s).length < s.length := by
  obtain ⟨stem, rfl⟩ := List.getLast?_eq_some_iff.mp hc
  have htrim : trimChars (stem ++ [c]) = trimChars stem :=
    trimChars_append_right stem (by simp [hblank])
  have hle := (prefix_trimAddress (stem ++ [c])).length_le
  have hstem : (trimChars stem).length ≤ stem.length :=
    (prefix_dropTailWhile _).length_le.trans (List.dropWhile_sublist isBlank).length_le
  rw [htrim] at hle
  rw [List.length_append, List.length_singleton]
  omega

end Trimmed

theorem blankBeforeSlashes_iff (s : String) :
    BlankBeforeSlashes s ↔ ∃ c ∈ (trimAddress s.toList).getLast?, isBlank c = true := by
  have htrim : (trim s).toList = trimChars s.toList := String.toList_ofList
  rw [BlankBeforeSlashes, htrim]
  constructor
  · rintro ⟨stem, blank, slashes, heq, hblank, hslashes⟩
    have hne : blank ≠ '/' := by
      rintro rfl
      exact absurd hblank (by decide)
    have hkept : trimAddress s.toList = stem ++ [blank] := by
      have hsplit : stem ++ blank :: slashes = stem ++ [blank] ++ slashes := by simp
      rw [trimAddress, heq, hsplit, dropTailWhile_append_of_all _ (by simpa using hslashes),
        dropTailWhile_append_of_kept _ (by simp) (by simp [dropTailWhile, hne])]
    exact ⟨blank, by simp [hkept], hblank⟩
  · rintro ⟨blank, hlast, hblank⟩
    obtain ⟨stem, hstem⟩ := List.getLast?_eq_some_iff.mp hlast
    refine ⟨stem, blank, (trimChars s.toList).rtakeWhile (· == '/'), ?_, hblank, ?_⟩
    · rw [List.append_cons, ← hstem, trimAddress, dropTailWhile_eq_rdropWhile]
      exact List.rdropWhile_append_rtakeWhile.symm
    · intro c hc
      simpa using List.mem_rtakeWhile_imp hc

theorem ofAddress_of_eq_nil {s : String} (h : trimAddress s.toList = []) :
    ofAddress s = ⟨defaultAddress⟩ := by
  rw [ofAddress, h]

theorem ofAddress_of_ne_nil {s : String} (h : trimAddress s.toList ≠ []) :
    ofAddress s = ⟨String.ofList (trimAddress s.toList)⟩ := by
  rw [ofAddress]
  split
  · contradiction
  · rfl

/-- The characters of a base are those that trimming leaves, or those of the default address. -/
theorem toList_address (s : String) :
    (trimAddress s.toList = [] ∧ (ofAddress s).address.toList = defaultAddress.toList) ∨
    (trimAddress s.toList ≠ [] ∧ (ofAddress s).address.toList = trimAddress s.toList) := by
  by_cases h : trimAddress s.toList = []
  · exact Or.inl ⟨h, by rw [ofAddress_of_eq_nil h]⟩
  · exact Or.inr ⟨h, by rw [ofAddress_of_ne_nil h, String.toList_ofList]⟩

/-- How an address comes from what a base is built from: the stem is what stands before the
slashes at the end, blanks around the two left aside, and the default address stands in
for an empty stem. -/
structure Origin (s address : String) (stem slashes : List Char) : Prop where
  split : ∃ before after : List Char, before.all isBlank = true ∧ after.all isBlank = true ∧
    s.toList = before ++ (stem ++ slashes) ++ after
  only_slashes : ∀ c ∈ slashes, c = '/'
  head : ∀ c ∈ (stem ++ slashes).head?, isBlank c = false
  last : ∀ c ∈ (stem ++ slashes).getLast?, isBlank c = false
  no_slash : ∀ c ∈ stem.getLast?, c ≠ '/'
  address : address = if stem = [] then "http://localhost:8000/api" else String.ofList stem

theorem origin_ofAddress (s : String) :
    ∃ stem slashes, Origin s (ofAddress s).address stem slashes := by
  have hsplit : trimAddress s.toList ++ (trimChars s.toList).rtakeWhile (· == '/') =
      trimChars s.toList := by
    rw [trimAddress, dropTailWhile_eq_rdropWhile, List.rdropWhile_append_rtakeWhile]
  refine ⟨trimAddress s.toList, (trimChars s.toList).rtakeWhile (· == '/'), ?_⟩
  refine {
    split := ?_
    only_slashes := fun c hc => by simpa using List.mem_rtakeWhile_imp hc
    head := ?_
    last := ?_
    no_slash := getLast?_trimAddress s.toList
    address := ?_ }
  · rw [hsplit]
    exact exists_ends_trimChars s.toList
  · rw [hsplit]
    exact head?_trimChars s.toList
  · rw [hsplit]
    exact getLast?_trimChars s.toList
  · split
    · next hnil => rw [ofAddress_of_eq_nil hnil, defaultAddress]
    · next hne => rw [ofAddress_of_ne_nil hne]

theorem head?_defaultAddress : defaultAddress.toList.head? = some 'h' := rfl

theorem getLast?_defaultAddress : defaultAddress.toList.getLast? = some 'i' := rfl

theorem address_ne_empty (s : String) : (ofAddress s).address ≠ "" := by
  intro h
  rcases toList_address s with ⟨_, heq⟩ | ⟨hne, heq⟩
  · rw [h] at heq
    exact absurd heq (by decide)
  · rw [h] at heq
    exact hne heq.symm

theorem head?_address (s : String) :
    ∀ c ∈ (ofAddress s).address.toList.head?, isBlank c = false := by
  rcases toList_address s with ⟨_, heq⟩ | ⟨_, heq⟩
  · intro c hc
    rw [heq, head?_defaultAddress] at hc
    cases hc
    rfl
  · rw [heq]
    exact head?_trimAddress s.toList

theorem getLast?_address (s : String) : ∀ c ∈ (ofAddress s).address.toList.getLast?, c ≠ '/' := by
  rcases toList_address s with ⟨_, heq⟩ | ⟨_, heq⟩
  · intro c hc
    rw [heq, getLast?_defaultAddress] at hc
    cases hc
    decide
  · rw [heq]
    exact getLast?_trimAddress s.toList

theorem blank_ends_address_iff (s : String) :
    (∃ c ∈ (ofAddress s).address.toList.getLast?, isBlank c = true) ↔ BlankBeforeSlashes s := by
  rw [blankBeforeSlashes_iff]
  rcases toList_address s with ⟨hnil, heq⟩ | ⟨_, heq⟩
  · have hletter : isBlank 'i' = false := by decide
    rw [heq, hnil, getLast?_defaultAddress]
    simp [hletter]
  · rw [heq]

/-- An address that ends in no blank is built again from itself. -/
theorem ofAddress_address {s : String}
    (h : ∀ c ∈ (ofAddress s).address.toList.getLast?, isBlank c = false) :
    ofAddress (ofAddress s).address = ofAddress s := by
  have hkept : trimAddress (ofAddress s).address.toList = (ofAddress s).address.toList :=
    trimAddress_of_ends (head?_address s) h (getLast?_address s)
  have hne : trimAddress (ofAddress s).address.toList ≠ [] := by
    rw [hkept]
    exact fun hnil => address_ne_empty s (String.toList_eq_nil_iff.mp hnil)
  rw [ofAddress_of_ne_nil hne, hkept, String.ofList_toList]

/-- An address that ends in a blank is not. -/
theorem ofAddress_address_ne {s : String} {c : Char}
    (hc : c ∈ (ofAddress s).address.toList.getLast?) (hblank : isBlank c = true) :
    ofAddress (ofAddress s).address ≠ ofAddress s := by
  intro hsame
  have hshort := length_trimAddress_lt hc hblank
  rcases toList_address (ofAddress s).address with ⟨_, heq⟩ | ⟨_, heq⟩
  · rw [hsame] at heq
    rw [heq, getLast?_defaultAddress] at hc
    cases hc
    exact absurd hblank (by decide)
  · rw [hsame] at heq
    rw [← heq] at hshort
    exact Nat.lt_irrefl _ hshort

/-- Of blanks and slashes alone nothing is left, unless a blank is left at the end. -/
theorem ofAddress_eq_default {s : String} (h : ∀ c ∈ s.toList, isBlank c = true ∨ c = '/')
    (hlast : ¬ BlankBeforeSlashes s) : ofAddress s = ⟨defaultAddress⟩ := by
  apply ofAddress_of_eq_nil
  rw [← List.getLast?_eq_none_iff, Option.eq_none_iff_forall_not_mem]
  intro c hc
  have hmem : c ∈ s.toList :=
    mem_of_mem_trimChars ((prefix_trimAddress _).mem (List.mem_of_mem_getLast? hc))
  rcases h c hmem with hblank | hslash
  · exact hlast ((blankBeforeSlashes_iff s).mpr ⟨c, hc, hblank⟩)
  · exact getLast?_trimAddress s.toList c hc hslash

/-- A base is never empty, begins with no blank and ends in no slash. It ends in no
blank, is built again from its own address, and is the default one where there is
nothing but blanks and slashes, exactly if no blank stands before the slashes at the
end of what it is built from. -/
theorem ofAddress_settled_iff (s : String) :
    ((ofAddress s).address ≠ "" ∧ (∀ c ∈ (ofAddress s).address.toList.head?, isBlank c = false) ∧
      ∀ c ∈ (ofAddress s).address.toList.getLast?, c ≠ '/') ∧
    ((∀ c ∈ (ofAddress s).address.toList.getLast?, isBlank c = false) ↔
      ¬ BlankBeforeSlashes s) ∧
    (ofAddress (ofAddress s).address = ofAddress s ↔ ¬ BlankBeforeSlashes s) ∧
    ((∀ c ∈ s.toList, isBlank c = true ∨ c = '/') →
      (ofAddress s = default ↔ ¬ BlankBeforeSlashes s)) := by
  have hends : (∀ c ∈ (ofAddress s).address.toList.getLast?, isBlank c = false) ↔
      ¬ BlankBeforeSlashes s := by
    rw [← blank_ends_address_iff]
    simp
  refine ⟨⟨address_ne_empty s, head?_address s, getLast?_address s⟩, hends, ?_, ?_⟩
  · constructor
    · intro hsame hlast
      obtain ⟨c, hc, hblank⟩ := (blank_ends_address_iff s).mpr hlast
      exact ofAddress_address_ne hc hblank hsame
    · intro hlast
      exact ofAddress_address (hends.mpr hlast)
  · intro honly
    have hdefault : default = ⟨defaultAddress⟩ := by decide +kernel
    rw [hdefault]
    constructor
    · intro hbase
      rw [← hends, hbase]
      intro c hc
      rw [getLast?_defaultAddress] at hc
      cases hc
      decide
    · exact ofAddress_eq_default honly

/-- A slash behind a blank leaves the blank, so that not even the default is reached. -/
theorem slash_behind_blank_unsettled :
    let base := ofAddress "/ /"
    (∀ c ∈ "/ /".toList, isBlank c = true ∨ c = '/') ∧ base.address = "/ " ∧ base ≠ default ∧
    (∃ c ∈ base.address.toList.getLast?, isBlank c = true) ∧ ofAddress base.address ≠ base := by
  have honly : "/ /".toList = ['/', ' ', '/'] := rfl
  have hblank : isBlank ' ' = true := by decide
  have hlast : (ofAddress "/ /").address.toList.getLast? = some ' ' := by decide +kernel
  refine ⟨?_, by decide +kernel, by decide +kernel, ⟨' ', hlast, hblank⟩, by decide +kernel⟩
  simp [honly, hblank]

/-- What is left of a path without the slashes that it begins with. -/
structure Stripped (path rest : String) : Prop where
  split : ∃ slashes, path.toList = slashes ++ rest.toList ∧ ∀ c ∈ slashes, c = '/'
  head : ∀ c ∈ rest.toList.head?, c ≠ '/'

theorem stripped_dropWhile (path : String) :
    Stripped path (String.ofList (path.toList.dropWhile (· == '/'))) where
  split := by
    refine ⟨path.toList.takeWhile (· == '/'), ?_, ?_⟩
    · rw [String.toList_ofList, List.takeWhile_append_dropWhile]
    · intro c hc
      simpa using List.mem_takeWhile_imp hc
  head := by
    intro c hc
    rw [String.toList_ofList] at hc
    have hnot := List.head?_dropWhile_not (· == '/') path.toList
    rw [Option.mem_def.mp hc] at hnot
    simpa using hnot

/-- Nothing is left exactly of a path that is nothing but slashes. -/
theorem Stripped.eq_empty_iff {path rest : String} (h : Stripped path rest) :
    rest = "" ↔ ∀ c ∈ path.toList, c = '/' := by
  obtain ⟨slashes, hsplit, hslashes⟩ := h.split
  constructor
  · rintro rfl
    rw [hsplit]
    simpa using hslashes
  · intro hall
    have hnone : rest.toList.head? = none := by
      rw [Option.eq_none_iff_forall_not_mem]
      intro c hc
      have hmem : c ∈ path.toList := by
        rw [hsplit]
        exact List.mem_append_right _ (List.mem_of_mem_head? hc)
      exact h.head c hc (hall c hmem)
    exact String.toList_eq_nil_iff.mp (List.head?_eq_none_iff.mp hnone)

/-- The slashes at the end of a path stay, those of a path apart that is nothing else. -/
theorem Stripped.rtakeWhile_eq {path rest : String} (h : Stripped path rest)
    (hother : ∃ c ∈ path.toList, c ≠ '/') :
    rest.toList.rtakeWhile (· == '/') = path.toList.rtakeWhile (· == '/') := by
  obtain ⟨slashes, hsplit, _⟩ := h.split
  cases hrest : rest.toList with
  | nil =>
    obtain ⟨c, hc, hne⟩ := hother
    exact absurd (h.eq_empty_iff.mp (String.toList_eq_nil_iff.mp hrest) c hc) hne
  | cons c tail =>
    have hc : c ≠ '/' := h.head c (by rw [hrest]; rfl)
    rw [hsplit, hrest]
    simp [List.rtakeWhile, List.takeWhile_append, hc]

theorem endpoint_eq (base : Base) (path : String) :
    ∃ rest, base.endpoint path = base.address ++ "/" ++ rest ∧ Stripped path rest :=
  ⟨_, rfl, stripped_dropWhile path⟩

theorem endpoint_eq_iff (base : Base) (p q : String) :
    base.endpoint p = base.endpoint q ↔
      p.toList.dropWhile (· == '/') = q.toList.dropWhile (· == '/') := by
  rw [endpoint, endpoint, String.append_right_inj, String.ofList_inj]

/-- What an operation of a session sends goes to the endpoint that it asks for. -/
theorem url_of_mem_sent {σ : Type} {base : Base} {wire : Wire σ} {e : Entry σ}
    (h : Lawful base wire e) {r : Http.Request} (hr : r ∈ e.step.sent) :
    ∃ method path body, demand e.op = some (method, path, body) ∧ r.url = base.endpoint path := by
  cases hdemand : demand e.op with
  | none =>
    have hsent := h.silent.mpr ((silent_iff e.op).mpr hdemand)
    rw [hsent] at hr
    exact absurd hr List.not_mem_nil
  | some asked =>
    obtain ⟨method, path, body⟩ := asked
    obtain ⟨request, _, _, hurl, _, hsent, _⟩ := h.request method path body hdemand
    rw [hsent, List.mem_singleton] at hr
    exact ⟨method, path, body, rfl, hr ▸ hurl⟩

/-- A base is what it is built from, or the default address, without blanks around it and
slashes at its end. An endpoint has the base, one slash, and its path without the slashes
in front, and these are all that two paths to one endpoint can differ in; the slashes at
the end of a path stay if there is anything else in it. Whatever a session sends goes to
such an endpoint. -/
theorem requests_go_to_endpoints (s : String) :
    (∃ stem slashes, Origin s (ofAddress s).address stem slashes) ∧
    ((ofAddress s).address ≠ "" ∧ ∀ c ∈ (ofAddress s).address.toList.getLast?, c ≠ '/') ∧
    (∀ path, ∃ rest, (ofAddress s).endpoint path = (ofAddress s).address ++ "/" ++ rest ∧
      Stripped path rest ∧ (rest = "" ↔ ∀ c ∈ path.toList, c = '/') ∧
      ((∃ c ∈ path.toList, c ≠ '/') →
        rest.toList.rtakeWhile (· == '/') = path.toList.rtakeWhile (· == '/'))) ∧
    (∀ p q, (ofAddress s).endpoint p = (ofAddress s).endpoint q ↔
      p.toList.dropWhile (· == '/') = q.toList.dropWhile (· == '/')) ∧
    ∀ (σ : Type) (wire : Wire σ) (state : σ) (jar : Cookie.Jar) (turns : List Turn),
      ∀ e ∈ (session (ofAddress s) wire state jar turns).entries, ∀ r ∈ e.step.sent,
        ∃ method path body rest, demand e.op = some (method, path, body) ∧
          r.url = (ofAddress s).address ++ "/" ++ rest ∧ Stripped path rest := by
  refine ⟨origin_ofAddress s, ⟨address_ne_empty s, getLast?_address s⟩, ?_,
    endpoint_eq_iff (ofAddress s), ?_⟩
  · intro path
    obtain ⟨rest, heq, hrest⟩ := (ofAddress s).endpoint_eq path
    exact ⟨rest, heq, hrest, hrest.eq_empty_iff, hrest.rtakeWhile_eq⟩
  · intro σ wire state jar turns e he r hr
    have hlawful : Lawful (ofAddress s) wire e := by
      rw [eq_enter_of_mem (ofAddress s) wire state jar turns e he]
      exact lawful_enter (ofAddress s) wire e.state e.jar e.op
    obtain ⟨method, path, body, hdemand, hurl⟩ := url_of_mem_sent hlawful hr
    obtain ⟨rest, heq, hrest⟩ := (ofAddress s).endpoint_eq path
    exact ⟨method, path, body, rest, hdemand, hurl.trans heq, hrest⟩

/-- Of a path that is a slash nothing is left, not even the slash at its end. -/
theorem slash_alone_lost :
    (ofAddress "http://h").endpoint "/" = "http://h/" ∧
    ¬ ∃ rest, (ofAddress "http://h").endpoint "/" = (ofAddress "http://h").address ++ "/" ++ rest ∧
      rest.toList.rtakeWhile (· == '/') = "/".toList.rtakeWhile (· == '/') := by
  have haddress : (ofAddress "http://h").address ++ "/" = "http://h/" := by decide +kernel
  have hendpoint : (ofAddress "http://h").endpoint "/" = "http://h/" := by decide +kernel
  refine ⟨hendpoint, ?_⟩
  rintro ⟨rest, heq, hslashes⟩
  rw [hendpoint, haddress] at heq
  obtain rfl := String.append_eq_left_iff.mp heq.symm
  exact absurd hslashes (by decide)

end AccountPortal.Backend.Base
