import AccountPortal.Proofs.Json.Direct
import AccountPortal.Proofs.Json.Fields

/-!
Whole texts, and the members of an object as they stand in its text: each with its key
and with the text of its value, which is found by stepping over the value. If the text
spells an object, these texts spell the values of its members.
-/
namespace AccountPortal.Json

/-- The text of the value that a text begins with, given what is left behind it. -/
def valueText (s rest : List Char) : List Char :=
  (skipBlanks s).take ((skipBlanks s).length - rest.length)

/-- Reads the members of an object from behind the quote of a key to the closing brace.
The first argument bounds their number. -/
def readMemberTexts : Nat → List Char → Except Fault (List (String × String) × List Char)
  | 0, s => .error (.before .endInObject s)
  | steps + 1, s => do
    let (key, s) ← readString s
    let (_, s) ← readColon s
    let (_, rest) ← skipValue s
    let member := (String.ofList key, String.ofList (valueText s rest))
    match ← readMemberEnd rest with
    | (false, rest) => return ([member], rest)
    | (true, rest) =>
      let (members, rest) ← readMemberTexts steps rest
      return (member :: members, rest)

def readObjectTexts (s : List Char) : Except Fault (List (String × String) × List Char) :=
  match skipBlanks s with
  | '\x7b' :: rest => do
    match ← readMemberStart rest with
    | (false, rest) => return ([], rest)
    | (true, rest) => readMemberTexts (stepBound rest) rest
  | rest => .error (.on .expectedValue rest)

/-- The keys of the object that a text is, each with the text of its value. -/
def memberTexts? (text : String) : Option (List (String × String)) :=
  (decode readObjectTexts text).toOption

def textsOf (name text : String) : List String :=
  ((memberTexts? text).getD []).filterMap fun m => if m.1 = name then some m.2 else none

def keysIn (text : String) : List String :=
  match decode readTree text with
  | .ok v => v.keys
  | .error _ => []

example : memberTexts? " \x7b \"user\" : [1 , 2.50] , \"\\u0075ser\":\x7b\"user\":0\x7d \x7d " =
    some [("user", "[1 , 2.50]"), ("user", "\x7b\"user\":0\x7d")] := by
  decide +kernel

variable {d : Nat} {s rest : List Char} {v : Value} {text : String}

theorem spelledText_valueText (h : SpelledText s v rest) : SpelledText (valueText s rest) v [] := by
  obtain ⟨d, h⟩ := h
  obtain ⟨taken, heq, hcut⟩ := (h.congr (skipBlanks_skipBlanks s).symm).takes.cut
  have htext : valueText s rest = taken := by
    rw [valueText, heq, List.length_append, Nat.add_sub_cancel, List.take_left']
    rfl
  exact ⟨d, htext ▸ hcut⟩

/-- A member of the text is one of the object if the keys are the same and the text of
its value spells the value. -/
def SpellsMember (m : String × Value) (text : String × String) : Prop :=
  m.1 = text.1 ∧ SpelledText text.2.toList m.2 []

theorem readMemberTexts_spelled {q : List Char} {ms : List (String × Value)}
    (h : MembersAhead SpelledText q ms rest) (steps : Nat) (hsteps : ms.length ≤ steps) :
    ∃ texts, readMemberTexts steps q = .ok (texts, rest) ∧ List.Forall₂ SpellsMember ms texts := by
  induction h generalizing steps with
  | @last q t u rest key v hkey hv hend =>
    obtain ⟨n, rfl⟩ : ∃ n, steps = n + 1 := ⟨steps - 1, by simp at hsteps; omega⟩
    obtain ⟨text, k, hstring, hcolon, rfl⟩ := hkey
    refine ⟨[(String.ofList text, String.ofList (valueText t u))], ?_, .cons ⟨rfl, ?_⟩ .nil⟩
    · simp [readMemberTexts, hstring, hcolon, spelled_spelling.skipped hv, hend, bind,
        Except.bind, pure, Except.pure]
    · simpa using spelledText_valueText hv
  | @more q t u next rest key v ms hkey hv hend _ ih =>
    simp only [List.length_cons] at hsteps
    obtain ⟨n, rfl⟩ : ∃ n, steps = n + 1 := ⟨steps - 1, by omega⟩
    obtain ⟨text, k, hstring, hcolon, rfl⟩ := hkey
    obtain ⟨texts, hread, hall⟩ := ih n (by omega)
    refine ⟨(String.ofList text, String.ofList (valueText t u)) :: texts, ?_,
      .cons ⟨rfl, ?_⟩ hall⟩
    · simp [readMemberTexts, hstring, hcolon, spelled_spelling.skipped hv, hend, hread, bind,
        Except.bind, pure, Except.pure]
    · simpa using spelledText_valueText hv

theorem readObjectTexts_spelled {ms : List (String × Value)}
    (h : SpelledText s (.object ms) rest) :
    ∃ texts, readObjectTexts s = .ok (texts, rest) ∧ List.Forall₂ SpellsMember ms texts := by
  obtain ⟨t, hopen, ⟨rfl, hstart⟩ | ⟨q, hstart, hlength, hms⟩⟩ := spelled_spelling.object h
  · refine ⟨[], ?_, .nil⟩
    simp [readObjectTexts, hopen, hstart, bind, Except.bind, pure, Except.pure]
  · obtain ⟨texts, hread, hall⟩ := readMemberTexts_spelled hms (stepBound q)
      (by rw [stepBound]; omega)
    exact ⟨texts, by simp [readObjectTexts, hopen, hstart, hread, bind, Except.bind], hall⟩

/-- The members of a name have their values spelled one by one. -/
theorem textsOf_spelled {ms : List (String × Value)} {rest : List Char}
    (h : SpelledText text.toList (.object ms) rest) (hend : skipBlanks rest = []) (name : String) :
    List.Forall₂ (fun v t => SpelledText (String.toList t) v []) (valuesOf name ms)
      (textsOf name text) := by
  obtain ⟨texts, hread, hall⟩ := readObjectTexts_spelled h
  have htexts : memberTexts? text = some texts := by
    rw [memberTexts?, decode_eq_ok_iff.mpr ⟨rest, hread, hend⟩]
    rfl
  rw [textsOf, htexts, Option.getD_some]
  clear hread htexts h
  induction hall with
  | nil => exact .nil
  | @cons m t ms texts hm _ ih =>
    obtain ⟨key, v⟩ := m
    obtain ⟨rfl, hv⟩ := hm
    by_cases hname : t.1 = name
    · simp only [valuesOf, List.filterMap_cons, if_pos hname]
      exact .cons hv ih
    · simp only [valuesOf, List.filterMap_cons, if_neg hname]
      exact ih

/-- A text spells a value, within the depth that is allowed, and nothing follows. -/
def SpellsWhole (text : String) (v : Value) : Prop :=
  ∃ rest, Spells depthLimit text.toList (.value v) rest ∧ skipBlanks rest = []

theorem decode_readTree_eq_ok_iff : decode readTree text = .ok v ↔ SpellsWhole text v := by
  simp only [decode_eq_ok_iff, readTree_eq_ok_iff, SpellsWhole]

theorem keysIn_eq (h : SpellsWhole text v) : keysIn text = v.keys := by
  rw [keysIn, decode_readTree_eq_ok_iff.mpr h]

theorem exists_spellsWhole_of_parse {w : Value} (h : parse text = .ok w) :
    ∃ v, SpellsWhole text v := by
  obtain ⟨rest, hread, hend⟩ := decode_eq_ok_iff.mp h
  obtain ⟨v, hv⟩ := exists_spells_of_readFreeForm hread
  exact ⟨v, rest, hv, hend⟩

theorem parse_of_spellsWhole (h : SpellsWhole text v) (hkeys : embeddedKey ∉ v.keys) :
    parse text = .ok v.normal := by
  obtain ⟨rest, hv, hend⟩ := h
  exact decode_eq_ok_iff.mpr ⟨rest, readFreeForm_of_spells hv hkeys, hend⟩

end AccountPortal.Json
