import AccountPortal.Proofs.Json.Parsing

/-!
What a text spells in full is also read directly: records are told from it without a
tree, and what does not matter to them is stepped over. So all that is told from the
tree of a text is told from the text itself.
-/
namespace AccountPortal.Json

variable {d steps : Nat} {c : Char} {s t u rest : List Char} {key : String} {v : Value}

/-- The part is stepped over in as many steps as its text pays for, from that text or
from one that differs by the blanks at its front. -/
def Part.SkippedIn (s rest : List Char) : Part → Prop
  | .value _ => ∀ steps s', skipBlanks s' = skipBlanks s → 2 * s.length ≤ steps →
      skipValueIn steps s' = .ok ((), rest)
  | .items _ => ∀ steps s', skipBlanks s' = skipBlanks s → 2 * s.length < steps →
      skipItemsIn steps s' = .ok ((), rest)
  | .members _ => ∀ steps s', skipBlanks s' = skipBlanks s → 2 * s.length < steps →
      skipMembersIn steps s' = .ok ((), rest)

theorem skipValueIn_scalar (hfirst : skipBlanks s = c :: t) (h : Scalar c t v rest) (steps : Nat) :
    skipValueIn (steps + 1) s = .ok ((), rest) := by
  cases h with
  | null h => simp [skipValueIn, hfirst, h]
  | yes h => simp [skipValueIn, hfirst, h]
  | no h => simp [skipValueIn, hfirst, h]
  | negative h => simp [skipValueIn, hfirst, skipNumber_of_readNumber h]
  | string h => simp [skipValueIn, hfirst, skipString_of_readString h]
  | number hc h =>
    have hne (d : Char) (hd : isDigit d = false) : c ≠ d := ne_of_isDigit hc hd
    simp [skipValueIn, hfirst, hc, skipNumber_of_readNumber h, hne 'n' rfl, hne 't' rfl,
      hne 'f' rfl, hne '-' rfl, hne '"' rfl, hne '[' rfl, hne '\x7b' rfl]

section Members

variable (hkey : Key s key t) (hvalue : skipValueIn steps t = .ok ((), u))

include hkey hvalue

theorem skipMembersIn_last (hclose : skipBlanks u = '\x7d' :: rest) :
    skipMembersIn (steps + 1) s = .ok ((), rest) := by
  cases hkey with
  | mk hquote hstring hcolon =>
    simp [skipMembersIn, hquote, skipString_of_readString hstring, hcolon, hvalue, hclose]

theorem skipMembersIn_next (hcomma : skipBlanks u = ',' :: rest) :
    skipMembersIn (steps + 1) s = skipMembersIn steps rest := by
  cases hkey with
  | mk hquote hstring hcolon =>
    simp [skipMembersIn, hquote, skipString_of_readString hstring, hcolon, hvalue, hcomma]

end Members

theorem Spells.skippedIn {part : Part} (h : Spells d s part rest) : part.SkippedIn s rest := by
  induction h with
  | scalar hfirst hscalar =>
    intro steps s' hs' hsteps
    obtain ⟨n, rfl, hn⟩ := exists_steps_of_skipBlanks hfirst hsteps
    exact skipValueIn_scalar (hs'.trans hfirst) hscalar n
  | emptyArray hopen hclose | emptyObject hopen hclose =>
    intro steps s' hs' hsteps
    obtain ⟨n, rfl, hn⟩ := exists_steps_of_skipBlanks hopen hsteps
    simp [skipValueIn, hs', hopen, hclose]
  | array hopen hitems ih =>
    intro steps s' hs' hsteps
    obtain ⟨n, rfl, hn⟩ := exists_steps_of_skipBlanks hopen hsteps
    obtain ⟨c, u, hfirst, hc⟩ := hitems.items_open
    have hskip := ih n (c :: u) (skipBlanks_of_first hfirst) hn
    simp [skipValueIn, hs', hopen, hfirst, hc.ne ']', hskip]
  | object hopen hmembers ih =>
    intro steps s' hs' hsteps
    obtain ⟨n, rfl, hn⟩ := exists_steps_of_skipBlanks hopen hsteps
    obtain ⟨q, hquote⟩ := hmembers.members_open
    have hskip := ih n ('"' :: q) (skipBlanks_of_first hquote) hn
    simp [skipValueIn, hs', hopen, hquote, hskip]
  | lastItem hv hclose ih =>
    intro steps s' hs' hsteps
    obtain ⟨n, rfl, hn⟩ := exists_steps_of_lt hsteps
    simp [skipItemsIn, ih n s' hs' hn, hclose]
  | item hv hcomma _ ih ihmore =>
    intro steps s' hs' hsteps
    obtain ⟨n, rfl, hn⟩ := exists_steps_of_lt hsteps
    have := hv.length_lt
    have := length_lt_of_skipBlanks hcomma
    simp [skipItemsIn, ih n s' hs' hn, hcomma, ihmore n _ rfl (by omega)]
  | lastMember hkey hv hclose ih =>
    intro steps s' hs' hsteps
    obtain ⟨n, rfl, hn⟩ := exists_steps_of_lt hsteps
    have := hkey.length_lt
    exact skipMembersIn_last (hkey.congr hs'.symm) (ih n _ rfl (by omega)) hclose
  | member hkey hv hcomma _ ih ihmore =>
    intro steps s' hs' hsteps
    obtain ⟨n, rfl, hn⟩ := exists_steps_of_lt hsteps
    have := hkey.length_lt
    have := hv.length_lt
    have := length_lt_of_skipBlanks hcomma
    rw [skipMembersIn_next (hkey.congr hs'.symm) (ih n _ rfl (by omega)) hcomma]
    exact ihmore n _ rfl (by omega)

theorem skipValue_of_spells (h : Spells d s (.value v) rest) : skipValue s = .ok ((), rest) :=
  h.skippedIn (stepBound s) s rfl (by rw [stepBound]; omega)

/-- A text begins with a value that it spells at some depth. -/
def SpelledText (s : List Char) (v : Value) (rest : List Char) : Prop :=
  ∃ d, Spells d s (.value v) rest

theorem itemsAhead_close (index : Nat) (hclose : skipBlanks s = ']' :: rest) :
    ItemsAhead SpelledText index s [] rest := by
  refine .done ?_ (by simp [RecordForm.closeItems, hclose])
  unfold readNextItem
  split
  · simp [readItemStart, hclose]
  · simp [readItemEnd, hclose]

/-- Items are met one by one, the first at the bracket and the others at a comma. -/
theorem itemsAhead_of_spells {vs : List Value} (h : Spells d s (.items vs) rest) :
    ItemsAhead SpelledText 0 s vs rest ∧
      ∀ index t, skipBlanks t = ',' :: s → ItemsAhead SpelledText (index + 1) t vs rest := by
  induction vs generalizing s with
  | nil => cases h
  | cons v vs ih =>
    obtain ⟨c, u, hfirst, hc⟩ := h.items_open
    obtain ⟨k, hv, hmore⟩ : ∃ k, SpelledText (skipBlanks s) v k ∧
        ∀ index, ItemsAhead SpelledText (index + 1) k vs rest := by
      cases h with
      | lastItem hv hclose =>
        exact ⟨_, ⟨d, hv.congr (skipBlanks_skipBlanks s).symm⟩,
          fun index => itemsAhead_close (index + 1) hclose⟩
      | item hv hcomma hrest =>
        exact ⟨_, ⟨d, hv.congr (skipBlanks_skipBlanks s).symm⟩,
          fun index => (ih hrest).2 index _ hcomma⟩
    constructor
    · exact .more (readItemStart_of_opens hfirst hc) (closeItems_error_of_opens hfirst hc)
        (hfirst ▸ hv) (hmore 0)
    · intro index t hcomma
      exact .more (readItemEnd_of_comma hcomma hfirst hc) (closeItems_error_of_comma hcomma)
        (hfirst ▸ hv) (hmore (index + 1))

theorem membersAhead_of_spells {ms : List (String × Value)} {q : List Char}
    (h : Spells d s (.members ms) rest) (hquote : skipBlanks s = '"' :: q) :
    MembersAhead SpelledText q ms rest := by
  induction ms generalizing s q with
  | nil => cases h
  | cons m ms ih =>
    cases h with
    | lastMember hkey hv hclose =>
      obtain ⟨_, hq, hreads⟩ := hkey.quoted
      cases hquote.symm.trans hq
      exact .last hreads ⟨d, hv⟩ (by simp [readMemberEnd, hclose])
    | member hkey hv hcomma hmore =>
      obtain ⟨_, hq, hreads⟩ := hkey.quoted
      cases hquote.symm.trans hq
      obtain ⟨next, hnext⟩ := hmore.members_open
      exact .more hreads ⟨d, hv⟩ (by simp [readMemberEnd, hcomma, hnext]) (ih hmore hnext)

/-- Each member takes part of the text. -/
theorem Spells.count_lt {ms : List (String × Value)} (h : Spells d s (.members ms) rest) :
    ms.length < s.length := by
  induction ms generalizing s with
  | nil => cases h
  | cons m ms ih =>
    cases h with
    | lastMember hkey hv _ =>
      have := hkey.length_lt
      have := hv.length_lt
      simp only [List.length_cons, List.length_nil]
      omega
    | member hkey hv hcomma hmore =>
      have := hkey.length_lt
      have := hv.length_lt
      have := length_lt_of_skipBlanks hcomma
      have := ih hmore
      simp only [List.length_cons]
      omega

theorem int64_agreesAt {n : Number} (h : Spells d s (.value (.number n)) rest) :
    Shape.int64.AgreesAt s (.number n) rest := by
  have hasInt : (asInt64 (.ok (n, rest))).toOption =
      (Shape.int64.ofTree? (.number n)).map (·, rest) := by
    cases n with
    | double x => rfl
    | integer i =>
      simp only [asInt64, Shape.int64]
      split <;> rfl
  cases h with
  | scalar hfirst hscalar =>
    rw [Shape.AgreesAt, ← hasInt]
    cases hscalar with
    | negative h => simp [Shape.int64, readInt64, hfirst, h]
    | number hc h =>
      simp [Shape.int64, readInt64, hfirst, hc, h, ne_of_isDigit hc (rfl : isDigit '-' = false)]

/-- Every reader finds what it looks for in what a text spells. -/
theorem spelled_spelling : Spelling SpelledText where
  blanks := fun ⟨d, h⟩ => ⟨d, h.congr (skipBlanks_skipBlanks _).symm⟩
  null := by
    rintro s rest ⟨d, h⟩
    cases h with
    | scalar hfirst hscalar =>
      cases hscalar with
      | null hread => exact ⟨_, hfirst, hread⟩
  yes := by
    rintro s rest ⟨d, h⟩
    cases h with
    | scalar hfirst hscalar =>
      cases hscalar with
      | yes hread => exact ⟨_, hfirst, hread⟩
  no := by
    rintro s rest ⟨d, h⟩
    cases h with
    | scalar hfirst hscalar =>
      cases hscalar with
      | no hread => exact ⟨_, hfirst, hread⟩
  number := by
    rintro s n rest ⟨d, h⟩
    refine ⟨int64_agreesAt h, ?_⟩
    cases h with
    | scalar hfirst hscalar =>
      cases hscalar with
      | negative hread => exact ⟨_, _, hfirst, Or.inl rfl⟩
      | number hc hread => exact ⟨_, _, hfirst, Or.inr hc⟩
  string := by
    rintro s x rest ⟨d, h⟩
    cases h with
    | scalar hfirst hscalar =>
      cases hscalar with
      | string hread => exact ⟨_, _, hfirst, hread, rfl⟩
  array := by
    rintro s vs rest ⟨d, h⟩
    cases h with
    | scalar hfirst hscalar => cases hscalar
    | emptyArray hopen hclose => exact ⟨_, hopen, itemsAhead_close 0 hclose⟩
    | array hopen hitems => exact ⟨_, hopen, (itemsAhead_of_spells hitems).1⟩
  object := by
    rintro s ms rest ⟨d, h⟩
    cases h with
    | scalar hfirst hscalar => cases hscalar
    | emptyObject hopen hclose =>
      exact ⟨_, hopen, Or.inl ⟨rfl, by simp [readMemberStart, hclose]⟩⟩
    | object hopen hmembers =>
      obtain ⟨q, hquote⟩ := hmembers.members_open
      have hfront := hmembers.congr (skipBlanks_skipBlanks _).symm
      rw [hquote] at hfront
      exact ⟨_, hopen, Or.inr ⟨q, by simp [readMemberStart, hquote],
        Nat.le_of_lt_succ hfront.count_lt, membersAhead_of_spells hmembers hquote⟩⟩
  skipped := fun ⟨_, h⟩ => skipValue_of_spells h

end AccountPortal.Json
