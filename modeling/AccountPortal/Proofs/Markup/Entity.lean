import AccountPortal.Markup
import Mathlib.Data.List.Infix
import Mathlib.Tactic.SplitIfs

/-!
Character data and its encoding. The characters that would end the data are written as
entities, and so is the ampersand that begins an entity. Whoever undoes the entities has
the data back, so different data never have the same encoding.
-/
namespace AccountPortal.Markup

inductive Entity where
  | amp
  | lt
  | gt
  | quot
  deriving DecidableEq

namespace Entity

/-- The character that the entity stands for. -/
def char : Entity → Char
  | .amp => '&'
  | .lt => '<'
  | .gt => '>'
  | .quot => '"'

def name : Entity → List Char
  | .amp => ['a', 'm', 'p']
  | .lt => ['l', 't']
  | .gt => ['g', 't']
  | .quot => ['q', 'u', 'o', 't']

def text (x : Entity) : List Char := '&' :: x.name ++ [';']

/-- The entities in character data between tags. -/
def inText : List Entity := [.amp, .lt, .gt]

/-- The entities in character data between double quotes. -/
def inValue : List Entity := [.amp, .lt, .gt, .quot]

end Entity

/-- Character data with its entities undone. An ampersand that begins none is kept. -/
def decode : List Char → List Char
  | '&' :: 'a' :: 'm' :: 'p' :: ';' :: rest => '&' :: decode rest
  | '&' :: 'l' :: 't' :: ';' :: rest => '<' :: decode rest
  | '&' :: 'g' :: 't' :: ';' :: rest => '>' :: decode rest
  | '&' :: 'q' :: 'u' :: 'o' :: 't' :: ';' :: rest => '"' :: decode rest
  | c :: rest => c :: decode rest
  | [] => []

/-- An encoding of `s` by some entities, the ampersand among them. -/
structure Encodes (entities : List Entity) (s e : List Char) : Prop where
  /-- Of the characters that have an entity only the ampersand occurs, -/
  clean : ∀ x ∈ entities, x ≠ .amp → x.char ∉ e
  /-- and where it occurs it begins an entity. -/
  begins : ∀ rest, '&' :: rest <:+ e → ∃ x ∈ entities, x.name ++ [';'] <+: rest
  decoded : decode e = s

/-- A character in the form in which it is written. -/
def escapeChar (entities : List Entity) (c : Char) : List Char :=
  match entities.find? fun x => x.char = c with
  | some x => x.text
  | none => [c]

theorem encodeTextChar_eq (c : Char) : encodeTextChar c = escapeChar Entity.inText c := by
  unfold encodeTextChar
  split_ifs with hamp hlt hgt
  · subst hamp
    rfl
  · subst hlt
    rfl
  · subst hgt
    rfl
  · simp [escapeChar, Entity.inText, Entity.char, Ne.symm hamp, Ne.symm hlt, Ne.symm hgt]

theorem encodeAttributeChar_eq (c : Char) :
    encodeAttributeChar c = escapeChar Entity.inValue c := by
  unfold encodeAttributeChar
  split_ifs with hquot
  · subst hquot
    rfl
  · have hquot' : Entity.quot.char ≠ c := Ne.symm hquot
    rw [encodeTextChar_eq, escapeChar, escapeChar]
    simp [Entity.inText, Entity.inValue, List.find?_cons, hquot']

theorem escapeChar_cases (entities : List Entity) (c : Char) :
    (∃ x ∈ entities, x.char = c ∧ escapeChar entities c = x.text) ∨
    ((∀ x ∈ entities, x.char ≠ c) ∧ escapeChar entities c = [c]) := by
  unfold escapeChar
  cases h : entities.find? fun x => x.char = c with
  | some x =>
    have hchar := List.find?_some h
    exact Or.inl ⟨x, List.mem_of_find?_eq_some h, of_decide_eq_true hchar, rfl⟩
  | none =>
    have hnone := List.find?_eq_none.mp h
    refine Or.inr ⟨?_, rfl⟩
    intro x hx heq
    exact hnone x hx (decide_eq_true heq)

theorem decode_cons {c : Char} (hc : c ≠ '&') (rest : List Char) :
    decode (c :: rest) = c :: decode rest := by
  rw [decode]
  all_goals
    intro more heq
    exact absurd heq hc

theorem decode_entity (x : Entity) (rest : List Char) :
    decode (x.text ++ rest) = x.char :: decode rest := by
  cases x <;> rfl

theorem char_not_mem_text (x y : Entity) (hy : y ≠ .amp) : y.char ∉ x.text := by
  cases x <;> cases y <;> simp_all [Entity.char, Entity.text, Entity.name]

/-- The only ampersand of an entity is its first character. -/
theorem suffix_entity {x : Entity} {rest more : List Char}
    (h : '&' :: rest <:+ x.text ++ more) :
    rest = x.name ++ [';'] ++ more ∨ '&' :: rest <:+ more := by
  cases x <;> simpa [Entity.text, Entity.name, List.suffix_cons_iff] using h

theorem encodes_escape {entities : List Entity} (hamp : .amp ∈ entities) (s : List Char) :
    Encodes entities s (s.flatMap (escapeChar entities)) := by
  induction s with
  | nil =>
    exact {
      clean := by simp
      begins := by simp
      decoded := rfl }
  | cons c s ih =>
    rw [List.flatMap_cons]
    rcases escapeChar_cases entities c with ⟨x, hx, hchar, htext⟩ | ⟨hplain, htext⟩
    · rw [htext]
      refine { clean := ?_, begins := ?_, decoded := ?_ }
      · intro y hy hne hmem
        rcases List.mem_append.mp hmem with hmem | hmem
        · exact char_not_mem_text x y hne hmem
        · exact ih.clean y hy hne hmem
      · intro rest hrest
        rcases suffix_entity hrest with rfl | hrest
        · exact ⟨x, hx, List.prefix_append _ _⟩
        · exact ih.begins rest hrest
      · rw [decode_entity, ih.decoded, hchar]
    · have hc : c ≠ '&' := Ne.symm (hplain .amp hamp)
      rw [htext, List.singleton_append]
      refine { clean := ?_, begins := ?_, decoded := ?_ }
      · intro y hy hne hmem
        rcases List.mem_cons.mp hmem with heq | hmem
        · exact hplain y hy heq
        · exact ih.clean y hy hne hmem
      · intro rest hrest
        rcases List.suffix_cons_iff.mp hrest with heq | hrest
        · exact absurd (List.cons.inj heq).1.symm hc
        · exact ih.begins rest hrest
      · rw [decode_cons hc, ih.decoded]

/-- The data that is read where `s` was to be shown as a text. -/
def shownText (s : List Char) : List Char := if s = [] then [' '] else s

theorem encodes_attribute (s : List Char) : Encodes Entity.inValue s (encodeAttribute s) := by
  rw [encodeAttribute, funext encodeAttributeChar_eq]
  exact encodes_escape (by simp [Entity.inValue]) s

theorem encodes_text (s : List Char) : Encodes Entity.inText (shownText s) (encodeText s) := by
  have hencoded : encodeText s = (shownText s).flatMap (escapeChar Entity.inText) := by
    rw [encodeText, funext encodeTextChar_eq, shownText]
    by_cases hs : s = []
    · subst hs
      rfl
    · simp [hs]
  rw [hencoded]
  exact encodes_escape (by simp [Entity.inText]) _

/-- Texts that are shown alike are alike, but for the one that is kept visible. -/
theorem encodeText_inj {s t : List Char} (h : encodeText s = encodeText t) :
    s = t ∨ (s = [] ∧ t = [' ']) ∨ (s = [' '] ∧ t = []) := by
  have hshown : shownText s = shownText t := by
    rw [← (encodes_text s).decoded, h, (encodes_text t).decoded]
  unfold shownText at hshown
  split_ifs at hshown with hs ht ht
  · exact Or.inl (hs.trans ht.symm)
  · exact Or.inr (Or.inl ⟨hs, hshown.symm⟩)
  · exact Or.inr (Or.inr ⟨hshown, ht⟩)
  · exact Or.inl hshown

/-- A text that goes on with characters that are written as they are. -/
theorem encodeText_append (s : List Char) {t : List Char} (hne : t ≠ [])
    (ht : t.flatMap encodeTextChar = t) :
    encodeText (s ++ t) = s.flatMap encodeTextChar ++ t := by
  simp [encodeText, hne, ht]

end AccountPortal.Markup
