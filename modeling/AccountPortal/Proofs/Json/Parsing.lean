import AccountPortal.Proofs.Json.Agreement
import AccountPortal.Proofs.Json.Grammar
import AccountPortal.Proofs.Json.RoundTrip

/-!
The reader of whole values against the grammar. What it reads is spelled by the text,
and what is spelled is read, in so many steps as the text has characters to pay for.
In free form a text may be read that stands for another value than the one it spells,
but one with the same beginning and the same end.
-/
namespace AccountPortal.Json

variable {d : Nat} {c : Char} {s t rest : List Char} {key : String} {v : Value}

variable {freeForm : Bool}

theorem map_eq_ok {α β : Type} {r : Read α} {f : α × List Char → β × List Char}
    {b : β} (h : r.map f = .ok (b, rest)) : ∃ a k, r = .ok (a, k) ∧ f (a, k) = (b, rest) := by
  cases r with
  | error e => cases h
  | ok got => exact ⟨got.1, got.2, rfl, Except.ok.inj h⟩

theorem readItemStart_eq_ok {more : Bool} (h : readItemStart s = .ok (more, rest)) :
    (more = false ∧ skipBlanks s = ']' :: rest) ∨ (more = true ∧ skipBlanks s = rest) := by
  unfold readItemStart at h
  split at h <;> cases h
  · exact Or.inl ⟨rfl, ‹_›⟩
  · exact Or.inr ⟨rfl, rfl⟩

theorem readItemEnd_eq_ok {more : Bool} (h : readItemEnd s = .ok (more, rest)) :
    (more = false ∧ skipBlanks s = ']' :: rest) ∨
    (more = true ∧ ∃ t, skipBlanks s = ',' :: t ∧ skipBlanks t = rest) := by
  unfold readItemEnd at h
  split at h
  · cases h
  · cases h
    exact Or.inl ⟨rfl, ‹_›⟩
  · split at h <;> cases h
    exact Or.inr ⟨rfl, _, ‹_›, rfl⟩
  · cases h

theorem readMemberStart_eq_ok {more : Bool} (h : readMemberStart s = .ok (more, rest)) :
    (more = false ∧ skipBlanks s = '\x7d' :: rest) ∨
    (more = true ∧ skipBlanks s = '"' :: rest) := by
  unfold readMemberStart at h
  split at h <;> cases h
  · exact Or.inl ⟨rfl, ‹_›⟩
  · exact Or.inr ⟨rfl, ‹_›⟩

theorem readMemberEnd_eq_ok {more : Bool} (h : readMemberEnd s = .ok (more, rest)) :
    (more = false ∧ skipBlanks s = '\x7d' :: rest) ∨
    (more = true ∧ ∃ t, skipBlanks s = ',' :: t ∧ skipBlanks t = '"' :: rest) := by
  unfold readMemberEnd at h
  split at h
  · cases h
  · cases h
    exact Or.inl ⟨rfl, ‹_›⟩
  · split at h <;> cases h
    exact Or.inr ⟨rfl, _, ‹_›, ‹_›⟩
  · cases h

theorem readColon_eq_ok (h : readColon s = .ok ((), rest)) : skipBlanks s = ':' :: rest := by
  unfold readColon at h
  split at h <;> cases h
  assumption

theorem readValueIn_array (hopen : skipBlanks s = '[' :: t) (steps : Nat) :
    readValueIn freeForm (steps + 1) (d + 1) s =
      match readItemStart t with
      | .error f => .error f
      | .ok (false, rest) => .ok (.array [], rest)
      | .ok (true, rest) =>
        (readItemsIn freeForm steps d rest).map fun (items, rest) => (.array items, rest) := by
  rw [readValueIn, hopen]
  rfl

theorem readValueIn_object (hopen : skipBlanks s = '\x7b' :: t) (steps : Nat) :
    readValueIn freeForm (steps + 1) (d + 1) s =
      match readMemberStart t with
      | .error f => .error f
      | .ok (false, rest) => .ok (.object [], rest)
      | .ok (true, rest) =>
        match readString rest with
        | .error f => .error f
        | .ok (key, rest) =>
          match readColon rest with
          | .error f => .error f
          | .ok (_, rest) =>
            if freeForm ∧ String.ofList key = embeddedKey then readEmbeddedIn steps rest
            else
              (readMembersIn freeForm steps d (String.ofList key) rest).map
                fun (members, rest) => (.object members, rest) := by
  rw [readValueIn, hopen]
  rfl

/-- What is read in so many steps is spelled by the text. A reading in free form may
stand for another value than the one that is spelled. -/
structure Sound (freeForm : Bool) (steps : Nat) : Prop where
  value : ∀ {d : Nat} {s rest : List Char} {v : Value},
    readValueIn freeForm steps d s = .ok (v, rest) →
      ∃ w, Spells d s (.value w) rest ∧ (freeForm = false → w = v)
  items : ∀ {d : Nat} {s rest : List Char} {vs : List Value},
    readItemsIn freeForm steps d s = .ok (vs, rest) →
      ∃ ws, Spells d s (.items ws) rest ∧ (freeForm = false → ws = vs)
  members : ∀ {d : Nat} {s t rest : List Char} {key : String} {ms : List (String × Value)},
    Key t key s → readMembersIn freeForm steps d key s = .ok (ms, rest) →
      ∃ ws, Spells d t (.members ws) rest ∧ (freeForm = false → ws = ms)

theorem closeObject_eq_ok (h : closeObject s = .ok ((), rest)) :
    skipBlanks s = '\x7d' :: rest := by
  unfold closeObject at h
  split at h <;> cases h
  assumption

/-- A value that is embedded as a text is spelled as the string that it is embedded in. -/
theorem spells_of_readEmbeddedIn {steps : Nat} (hkey : Key t key s)
    (h : readEmbeddedIn steps s = .ok (v, rest)) :
    ∃ w, Spells d t (.members [(key, w)]) rest := by
  cases steps with
  | zero => cases h
  | succ n =>
    rw [readEmbeddedIn] at h
    split at h
    · cases h
    · rename_i text k htext
      have hstring : Spells d s (.value (.string (String.ofList text))) k := by
        unfold readText at htext
        split at htext
        · cases htext
        · rename_i hquote
          exact .scalar hquote (.string htext)
        · cases htext
      split at h
      · cases h
      · split at h
        · cases h
        · obtain ⟨u, k, hclose, hrest⟩ := map_eq_ok h
          cases hrest
          exact ⟨_, .lastMember hkey hstring (closeObject_eq_ok hclose)⟩

section Sound

variable {steps : Nat} (ih : Sound freeForm steps)

include ih

theorem Sound.succ_items {vs : List Value}
    (h : readItemsIn freeForm (steps + 1) d s = .ok (vs, rest)) :
    ∃ ws, Spells d s (.items ws) rest ∧ (freeForm = false → ws = vs) := by
  rw [readItemsIn] at h
  split at h
  · cases h
  · rename_i v t hread
    obtain ⟨w, hw, hsame⟩ := ih.value hread
    split at h
    · cases h
    · rename_i hend
      cases h
      obtain ⟨_, hclose⟩ | ⟨hmore, _⟩ := readItemEnd_eq_ok hend
      · exact ⟨[w], .lastItem hw hclose, fun hfree => by rw [hsame hfree]⟩
      · cases hmore
    · rename_i more hend
      obtain ⟨hmore, _⟩ | ⟨_, u, hcomma, rfl⟩ := readItemEnd_eq_ok hend
      · cases hmore
      · obtain ⟨items, k, hitems, heq⟩ := map_eq_ok h
        cases heq
        obtain ⟨ws, hws, hall⟩ := ih.items hitems
        exact ⟨w :: ws, .item hw hcomma hws.of_skipBlanks, fun hfree => by
          rw [hsame hfree, hall hfree]⟩

theorem Sound.succ_members {ms : List (String × Value)} (hkey : Key t key s)
    (h : readMembersIn freeForm (steps + 1) d key s = .ok (ms, rest)) :
    ∃ ws, Spells d t (.members ws) rest ∧ (freeForm = false → ws = ms) := by
  rw [readMembersIn] at h
  split at h
  · cases h
  · rename_i v u hread
    obtain ⟨w, hw, hsame⟩ := ih.value hread
    split at h
    · cases h
    · rename_i hend
      cases h
      obtain ⟨_, hclose⟩ | ⟨hmore, _⟩ := readMemberEnd_eq_ok hend
      · exact ⟨[(key, w)], .lastMember hkey hw hclose, fun hfree => by rw [hsame hfree]⟩
      · cases hmore
    · rename_i q hend
      obtain ⟨hmore, _⟩ | ⟨_, more, hcomma, hquote⟩ := readMemberEnd_eq_ok hend
      · cases hmore
      · split at h
        · cases h
        · rename_i next k hstring
          split at h
          · cases h
          · rename_i hcolon
            obtain ⟨members, k', hmembers, heq⟩ := map_eq_ok h
            cases heq
            obtain ⟨ws, hws, hall⟩ :=
              ih.members (.mk hquote hstring (readColon_eq_ok hcolon)) hmembers
            exact ⟨(key, w) :: ws, .member hkey hw hcomma hws, fun hfree => by
              rw [hsame hfree, hall hfree]⟩

/-- An array is read one level further down. -/
theorem Sound.succ_array (hopen : skipBlanks s = '[' :: t)
    (h : readValueIn freeForm (steps + 1) d s = .ok (v, rest)) :
    ∃ w, Spells d s (.value w) rest ∧ (freeForm = false → w = v) := by
  cases d with
  | zero => simp [readValueIn, hopen] at h
  | succ d =>
    rw [readValueIn_array hopen] at h
    split at h
    · cases h
    · rename_i hstart
      cases h
      obtain ⟨_, hclose⟩ | ⟨hmore, _⟩ := readItemStart_eq_ok hstart
      · exact ⟨.array [], .emptyArray hopen hclose, fun _ => rfl⟩
      · cases hmore
    · rename_i more hstart
      obtain ⟨hmore, _⟩ | ⟨_, rfl⟩ := readItemStart_eq_ok hstart
      · cases hmore
      · obtain ⟨items, k, hitems, heq⟩ := map_eq_ok h
        cases heq
        obtain ⟨ws, hws, hall⟩ := ih.items hitems
        exact ⟨.array ws, .array hopen hws.of_skipBlanks, fun hfree => by rw [hall hfree]⟩

theorem Sound.succ_object (hopen : skipBlanks s = '\x7b' :: t)
    (h : readValueIn freeForm (steps + 1) d s = .ok (v, rest)) :
    ∃ w, Spells d s (.value w) rest ∧ (freeForm = false → w = v) := by
  cases d with
  | zero => simp [readValueIn, hopen] at h
  | succ d =>
    rw [readValueIn_object hopen] at h
    split at h
    · cases h
    · rename_i hstart
      cases h
      obtain ⟨_, hclose⟩ | ⟨hmore, _⟩ := readMemberStart_eq_ok hstart
      · exact ⟨.object [], .emptyObject hopen hclose, fun _ => rfl⟩
      · cases hmore
    · rename_i q hstart
      obtain ⟨hmore, _⟩ | ⟨_, hquote⟩ := readMemberStart_eq_ok hstart
      · cases hmore
      · split at h
        · cases h
        · rename_i text k hstring
          split at h
          · cases h
          · rename_i hcolon
            have hkey := Key.mk hquote hstring (readColon_eq_ok hcolon)
            split at h
            · rename_i hembedded
              obtain ⟨w, hw⟩ := spells_of_readEmbeddedIn (d := d) hkey h
              refine ⟨.object _, .object hopen hw, fun hfree => ?_⟩
              exact absurd (hembedded.1.symm.trans hfree) (by decide)
            · obtain ⟨members, k', hmembers, heq⟩ := map_eq_ok h
              cases heq
              obtain ⟨ws, hws, hall⟩ := ih.members hkey hmembers
              exact ⟨.object ws, .object hopen hws, fun hfree => by rw [hall hfree]⟩

omit ih in
theorem scalar_of_readValueIn (hfirst : skipBlanks s = c :: t) (harray : c ≠ '[')
    (hobject : c ≠ '\x7b') (h : readValueIn freeForm (steps + 1) d s = .ok (v, rest)) :
    Scalar c t v rest := by
  rw [readValueIn, hfirst] at h
  split at h <;> rename_i heq
  · cases heq
  · cases heq
    obtain ⟨_, k, hread, heq⟩ := map_eq_ok h
    cases heq
    exact .null hread
  · cases heq
    obtain ⟨_, k, hread, heq⟩ := map_eq_ok h
    cases heq
    exact .yes hread
  · cases heq
    obtain ⟨_, k, hread, heq⟩ := map_eq_ok h
    cases heq
    exact .no hread
  · cases heq
    obtain ⟨n, k, hread, heq⟩ := map_eq_ok h
    cases heq
    exact .negative hread
  · cases heq
    obtain ⟨t, k, hread, heq⟩ := map_eq_ok h
    cases heq
    exact .string hread
  · cases heq
    exact absurd rfl harray
  · cases heq
    exact absurd rfl hobject
  · cases heq
    split at h
    · rename_i hdigit
      obtain ⟨n, k, hread, heq⟩ := map_eq_ok h
      cases heq
      exact .number hdigit hread
    · cases h

theorem Sound.succ_value (h : readValueIn freeForm (steps + 1) d s = .ok (v, rest)) :
    ∃ w, Spells d s (.value w) rest ∧ (freeForm = false → w = v) := by
  cases hfirst : skipBlanks s with
  | nil => simp [readValueIn, hfirst] at h
  | cons c t =>
    by_cases harray : c = '['
    · subst harray
      exact ih.succ_array hfirst h
    · by_cases hobject : c = '\x7b'
      · subst hobject
        exact ih.succ_object hfirst h
      · exact ⟨v, .scalar hfirst (scalar_of_readValueIn hfirst harray hobject h), fun _ => rfl⟩

end Sound

theorem sound (freeForm : Bool) (steps : Nat) : Sound freeForm steps := by
  induction steps with
  | zero => exact ⟨nofun, nofun, nofun⟩
  | succ steps ih => exact ⟨ih.succ_value, ih.succ_items, ih.succ_members⟩

/-- The part has no key that the reader would take for something else. -/
def Part.Plain (freeForm : Bool) : Part → Prop
  | .value v => v.Plain freeForm
  | .items vs => ∀ v ∈ vs, v.Plain freeForm
  | .members ms => ∀ m ∈ ms, (freeForm = true → m.1 ≠ embeddedKey) ∧ m.2.Plain freeForm

/-- The part is read in as many steps as its text pays for, from that text or from one
that differs by the blanks at its front. -/
def Part.ReadIn (freeForm : Bool) (d : Nat) (s rest : List Char) : Part → Prop
  | .value v => ∀ steps s', skipBlanks s' = skipBlanks s → 2 * s.length ≤ steps →
      readValueIn freeForm steps d s' = .ok (v, rest)
  | .items vs => ∀ steps s', skipBlanks s' = skipBlanks s → 2 * s.length < steps →
      readItemsIn freeForm steps d s' = .ok (vs, rest)
  | .members ms => ∃ key t, Key s key t ∧ key ∈ ms.map Prod.fst ∧
      ∀ steps, 2 * s.length < steps → readMembersIn freeForm steps d key t = .ok (ms, rest)

theorem readValueIn_scalar (hfirst : skipBlanks s = c :: t) (h : Scalar c t v rest) (steps : Nat) :
    readValueIn freeForm (steps + 1) d s = .ok (v, rest) := by
  cases h with
  | null h => simp [readValueIn, hfirst, h, Except.map]
  | yes h => simp [readValueIn, hfirst, h, Except.map]
  | no h => simp [readValueIn, hfirst, h, Except.map]
  | negative h => simp [readValueIn, hfirst, h, Except.map]
  | string h => simp [readValueIn, hfirst, h, Except.map]
  | number hc h =>
    have hne (d : Char) (hd : isDigit d = false) : c ≠ d := ne_of_isDigit hc hd
    simp [readValueIn, hfirst, hc, h, hne 'n' rfl, hne 't' rfl, hne 'f' rfl, hne '-' rfl,
      hne '"' rfl, hne '[' rfl, hne '\x7b' rfl, Except.map]

theorem Key.quoted (h : Key s key rest) : ∃ q, skipBlanks s = '"' :: q ∧ ReadsKey q key rest := by
  cases h with
  | mk hquote hstring hcolon =>
    exact ⟨_, hquote, _, _, hstring, by simp [readColon, hcolon], rfl⟩

theorem Spells.readIn {part : Part} (h : Spells d s part rest) (hplain : part.Plain freeForm) :
    part.ReadIn freeForm d s rest := by
  induction h with
  | scalar hfirst hscalar =>
    intro steps s' hs' hsteps
    obtain ⟨n, rfl, hn⟩ := exists_steps_of_skipBlanks hfirst hsteps
    exact readValueIn_scalar (hs'.trans hfirst) hscalar n
  | emptyArray hopen hclose =>
    intro steps s' hs' hsteps
    obtain ⟨n, rfl, hn⟩ := exists_steps_of_skipBlanks hopen hsteps
    simp [readValueIn_array (hs'.trans hopen), readItemStart, hclose]
  | array hopen hitems ih =>
    intro steps s' hs' hsteps
    obtain ⟨n, rfl, hn⟩ := exists_steps_of_skipBlanks hopen hsteps
    obtain ⟨c, u, hfirst, hc⟩ := hitems.items_open
    have hread := ih (Value.plain_array.mp hplain) n (c :: u) (skipBlanks_of_first hfirst) hn
    simp [readValueIn_array (hs'.trans hopen), readItemStart_of_opens hfirst hc, hread, Except.map]
  | emptyObject hopen hclose =>
    intro steps s' hs' hsteps
    obtain ⟨n, rfl, hn⟩ := exists_steps_of_skipBlanks hopen hsteps
    simp [readValueIn_object (hs'.trans hopen), readMemberStart, hclose]
  | object hopen _ ih =>
    intro steps s' hs' hsteps
    obtain ⟨n, rfl, hn⟩ := exists_steps_of_skipBlanks hopen hsteps
    have hmembers := Value.plain_object.mp hplain
    obtain ⟨key, u, hkey, hmem, hread⟩ := ih hmembers
    obtain ⟨m, hm, rfl⟩ := List.mem_map.mp hmem
    have hname : ¬ (freeForm = true ∧ m.1 = embeddedKey) := fun h => (hmembers m hm).1 h.1 h.2
    obtain ⟨q, hquote, text, k, hstring, hcolon, heq⟩ := hkey.quoted
    simp [readValueIn_object (hs'.trans hopen), readMemberStart, hquote, hstring, hcolon, heq,
      hname, hread n hn, Except.map]
  | lastItem hv hclose ih =>
    intro steps s' hs' hsteps
    obtain ⟨n, rfl, hn⟩ := exists_steps_of_lt hsteps
    have hread := ih (hplain _ List.mem_cons_self) n s' hs' hn
    simp [readItemsIn, hread, readItemEnd, hclose]
  | item hv hcomma hmore ih ihmore =>
    intro steps s' hs' hsteps
    obtain ⟨n, rfl, hn⟩ := exists_steps_of_lt hsteps
    have := hv.length_lt
    have := length_lt_of_skipBlanks hcomma
    obtain ⟨c, u, hfirst, hc⟩ := hmore.items_open
    have hread := ih (hplain _ List.mem_cons_self) n s' hs' hn
    have hrest := ihmore (fun w hw => hplain w (List.mem_cons_of_mem _ hw)) n (c :: u)
      (skipBlanks_of_first hfirst) (by omega)
    simp [readItemsIn, hread, readItemEnd_of_comma hcomma hfirst hc, hrest, Except.map]
  | lastMember hkey hv hclose ih =>
    refine ⟨_, _, hkey, by simp, fun steps hsteps => ?_⟩
    obtain ⟨n, rfl, hn⟩ := exists_steps_of_lt hsteps
    have := hkey.length_lt
    have hread := ih (hplain _ List.mem_cons_self).2 n _ rfl (by omega)
    simp [readMembersIn, hread, readMemberEnd, hclose]
  | member hkey hv hcomma _ ih ihmore =>
    refine ⟨_, _, hkey, by simp, fun steps hsteps => ?_⟩
    obtain ⟨n, rfl, hn⟩ := exists_steps_of_lt hsteps
    have := hkey.length_lt
    have := hv.length_lt
    have := length_lt_of_skipBlanks hcomma
    have hread := ih (hplain _ List.mem_cons_self).2 n _ rfl (by omega)
    obtain ⟨next, u, hnext, _, hrest⟩ := ihmore fun m hm => hplain m (List.mem_cons_of_mem _ hm)
    obtain ⟨q, hquote, text, k, hstring, hcolon, heq⟩ := hnext.quoted
    simp [readMembersIn, hread, readMemberEnd, hcomma, hquote, hstring, hcolon, heq,
      hrest n (by omega), Except.map]

/-- What a text spells is what is read from it as it stands. -/
theorem readTree_eq_ok_iff : readTree s = .ok (v, rest) ↔ Spells depthLimit s (.value v) rest := by
  constructor
  · intro h
    obtain ⟨w, hw, hsame⟩ := (sound false (stepBound s)).value h
    rwa [hsame rfl] at hw
  · intro h
    have hplain : (Part.value v).Plain false := fun hfree => absurd hfree (by decide)
    exact h.readIn hplain _ s rfl (by rw [stepBound]; omega)

/-- Only a key that stands for an embedded text makes a difference in free form. -/
theorem readFreeForm_of_spells (h : Spells depthLimit s (.value v) rest)
    (hkeys : embeddedKey ∉ v.keys) : readFreeForm s = .ok (v.normal, rest) := by
  have hplain : (Part.value v).Plain true := fun _ => hkeys
  rw [readFreeForm, readFreeFormWithin,
    h.readIn hplain (stepBound s) s rfl (by rw [stepBound]; omega)]
  rfl

theorem exists_spells_of_readFreeForm (h : readFreeForm s = .ok (v, rest)) :
    ∃ w, Spells depthLimit s (.value w) rest := by
  obtain ⟨w, k, hread, heq⟩ := map_eq_ok h
  cases heq
  obtain ⟨w, hw, _⟩ := (sound true (stepBound s)).value hread
  exact ⟨w, hw⟩

end AccountPortal.Json
