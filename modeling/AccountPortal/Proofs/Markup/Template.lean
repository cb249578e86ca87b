import AccountPortal.Proofs.Markup.Entity

/-!
Templates. The text of nodes is fixed markup with holes for the texts and for the values
of attributes, and what fills the holes is encoded. A reader that goes through such a
text, from place to place, takes the fixed markup for markup and the rest for data,
whatever has been filled in.
-/
namespace AccountPortal.Markup

inductive Piece where
  | markup (s : List Char)
  | text (s : String)
  | value (s : String)

/-- A piece of a template: a hole is left for what is not markup. -/
inductive Slot where
  | markup (s : List Char)
  | text
  | value
  deriving DecidableEq

namespace Piece

def render : Piece → List Char
  | .markup s => s
  | .text s => encodeText s.toList
  | .value s => encodeAttribute s.toList

@[simp] def slot : Piece → Slot
  | .markup s => .markup s
  | .text _ => .text
  | .value _ => .value

/-- What is in the hole. -/
def filling? : Piece → Option String
  | .markup _ => none
  | .text s => some s
  | .value s => some s

end Piece

section Filling

variable (s : String) (rest : List Piece)

@[simp] theorem filling?_markup (s : List Char) :
    (Piece.markup s :: rest).filterMap Piece.filling? = rest.filterMap Piece.filling? := rfl

@[simp] theorem filling?_text :
    (Piece.text s :: rest).filterMap Piece.filling? = s :: rest.filterMap Piece.filling? := rfl

@[simp] theorem filling?_value :
    (Piece.value s :: rest).filterMap Piece.filling? = s :: rest.filterMap Piece.filling? := rfl

end Filling

@[simp] def Attribute.pieces : Attribute → List Piece
  | .pair name value => [.markup (' ' :: name.toList ++ ['=', '"']), .value value, .markup ['"']]
  | .flag name => [.markup (' ' :: name.toList)]

/-- The pieces of a start tag. -/
def tagPieces (tag : String) (attributes : List Attribute) : List Piece :=
  .markup ('<' :: tag.toList) :: attributes.flatMap Attribute.pieces ++ [.markup ['>']]

mutual

def Node.pieces : Node → List Piece
  | .text s => [.text s]
  | .element tag attributes children =>
    tagPieces tag attributes ++ pieces children ++ [.markup (closeTag tag)]
  | .void tag attributes => tagPieces tag attributes
  | .absent => [.markup "<!><!--<() />-->".toList]
  | .listEnd => [.markup "<!>".toList]

/-- The pieces of nodes one after another. -/
def pieces : List Node → List Piece
  | [] => []
  | node :: rest => node.pieces ++ pieces rest

end

/-- The template of nodes. -/
def slots (nodes : List Node) : List Slot := (pieces nodes).map Piece.slot

/-- What fills the holes of the template, in order. -/
def fillings (nodes : List Node) : List String := (pieces nodes).filterMap Piece.filling?

/-- A text that is a template with strings in its holes, one in each. What stands in a
hole has nothing that would end the hole, and is read back as the string; where an empty
string was to be shown there is a space. -/
inductive Filled : List Slot → List String → List Char → Prop where
  | nil : Filled [] [] []
  | markup (s : List Char) {rest : List Slot} {strings : List String} {out : List Char}
    (hrest : Filled rest strings out) : Filled (.markup s :: rest) strings (s ++ out)
  | text {s : String} {e : List Char} {rest : List Slot} {strings : List String}
    {out : List Char} (h : Encodes Entity.inText (shownText s.toList) e)
    (hrest : Filled rest strings out) : Filled (.text :: rest) (s :: strings) (e ++ out)
  | value {s : String} {e : List Char} {rest : List Slot} {strings : List String}
    {out : List Char} (h : Encodes Entity.inValue s.toList e)
    (hrest : Filled rest strings out) : Filled (.value :: rest) (s :: strings) (e ++ out)

theorem Attribute.render_eq (a : Attribute) : a.render = a.pieces.flatMap Piece.render := by
  cases a with
  | pair name value => simp [render, pieces, Piece.render]
  | flag name => simp [render, pieces, Piece.render]

theorem openTag_eq (tag : String) (attributes : List Attribute) :
    openTag tag attributes = (tagPieces tag attributes).flatMap Piece.render := by
  have hrender : Attribute.render = fun a => a.pieces.flatMap Piece.render :=
    funext Attribute.render_eq
  simp [openTag, tagPieces, Piece.render, List.flatMap_assoc, hrender]

theorem Node.render_text (s : String) : (Node.text s).render = encodeText s.toList := rfl

section Element

variable (tag : String) (attributes : List Attribute) (children : List Node)

theorem Node.render_element : (Node.element tag attributes children).render =
    openTag tag attributes ++ renderAll children ++ closeTag tag := rfl

theorem Node.pieces_element : (Node.element tag attributes children).pieces =
    tagPieces tag attributes ++ Markup.pieces children ++ [.markup (closeTag tag)] := rfl

end Element

mutual

theorem Node.render_eq : (node : Node) → node.render = node.pieces.flatMap Piece.render
  | .text s => (List.flatMap_singleton Piece.render (.text s)).symm
  | .element tag attributes children => by
    rw [Node.render_element, Node.pieces_element, openTag_eq, renderAll_eq children,
      List.flatMap_append, List.flatMap_append, List.flatMap_singleton]
    rfl
  | .void tag attributes => openTag_eq tag attributes
  | .absent => rfl
  | .listEnd => rfl

theorem renderAll_eq : (nodes : List Node) → renderAll nodes = (pieces nodes).flatMap Piece.render
  | [] => rfl
  | node :: rest => by
    rw [renderAll, pieces, Node.render_eq node, renderAll_eq rest, List.flatMap_append]

end

theorem filled_pieces (ps : List Piece) :
    Filled (ps.map Piece.slot) (ps.filterMap Piece.filling?) (ps.flatMap Piece.render) := by
  induction ps with
  | nil => exact .nil
  | cons piece rest ih =>
    cases piece with
    | markup s => exact .markup s ih
    | text s => exact .text (encodes_text s.toList) ih
    | value s => exact .value (encodes_attribute s.toList) ih

/-- The text of nodes is their template with the holes filled. -/
theorem filled_renderAll (nodes : List Node) :
    Filled (slots nodes) (fillings nodes) (renderAll nodes) := by
  rw [renderAll_eq]
  exact filled_pieces (pieces nodes)

@[simp] theorem slots_nil : slots [] = [] := rfl

@[simp] theorem fillings_nil : fillings [] = [] := rfl

section Cons

variable (s tag : String) (attributes : List Attribute) (children rest : List Node)

@[simp] theorem slots_text : slots (.text s :: rest) = .text :: slots rest := rfl

@[simp] theorem fillings_text : fillings (.text s :: rest) = s :: fillings rest := rfl

@[simp] theorem slots_void : slots (.void tag attributes :: rest) =
    .markup ('<' :: tag.toList) :: (attributes.flatMap Attribute.pieces).map Piece.slot ++
      .markup ['>'] :: slots rest := by
  change (tagPieces tag attributes ++ pieces rest).map Piece.slot = _
  simp [slots, tagPieces]

/-- The values of attributes fill the holes of a tag. -/
@[simp] theorem fillings_void : fillings (.void tag attributes :: rest) =
    (attributes.flatMap Attribute.pieces).filterMap Piece.filling? ++ fillings rest := by
  change (tagPieces tag attributes ++ pieces rest).filterMap Piece.filling? = _
  simp [fillings, tagPieces]

@[simp] theorem slots_element : slots (.element tag attributes children :: rest) =
    slots [.void tag attributes] ++ slots children ++ .markup (closeTag tag) :: slots rest := by
  rw [slots_void]
  change (tagPieces tag attributes ++ pieces children ++ [Piece.markup (closeTag tag)] ++
    pieces rest).map Piece.slot = _
  simp [slots, pieces, tagPieces]

@[simp] theorem fillings_element : fillings (.element tag attributes children :: rest) =
    fillings [.void tag attributes] ++ fillings children ++ fillings rest := by
  rw [fillings_void]
  change (tagPieces tag attributes ++ pieces children ++ [Piece.markup (closeTag tag)] ++
    pieces rest).filterMap Piece.filling? = _
  simp [fillings, pieces, tagPieces]

@[simp] theorem fillings_absent : fillings (.absent :: rest) = fillings rest := rfl

@[simp] theorem fillings_listEnd : fillings (.listEnd :: rest) = fillings rest := rfl

end Cons

/-- Where a reader is in a text. -/
inductive Place where
  | text
  /-- At the beginning of a tag, or of a comment of which so many characters are read. -/
  | opening (n : Nat)
  | tag
  /-- Between double quotes in a tag. -/
  | value
  /-- In a comment, with so many characters of its end read. -/
  | comment (n : Nat)
  deriving DecidableEq

namespace Place

def nextInTag (c : Char) : Place :=
  if c = '"' then .value else if c = '>' then .text else .tag

/-- The place after a character. -/
def next : Place → Char → Place
  | .text, c => if c = '<' then .opening 1 else .text
  | .opening n, c =>
    if n = 1 ∧ c = '!' then .opening 2
    else if n = 2 ∧ c = '-' then .opening 3
    else if n = 3 ∧ c = '-' then .comment 0
    else nextInTag c
  | .tag, c => nextInTag c
  | .value, c => if c = '"' then .tag else .value
  | .comment n, c =>
    if c = '-' then .comment (min (n + 1) 2)
    else if n = 2 ∧ c = '>' then .text
    else .comment 0

/-- Whether a character that is found at the place is markup, and not data. -/
def isMarkup : Place → Char → Bool
  | .text, c => c = '<'
  | .value, c => c = '"'
  | _, _ => true

/-- The place after a text. -/
def after (p : Place) (s : List Char) : Place := s.foldl next p

end Place

/-- What a reader takes for markup. -/
def outline : Place → List Char → List Char
  | _, [] => []
  | p, c :: rest => if p.isMarkup c then c :: outline (p.next c) rest else outline (p.next c) rest

theorem outline_append (p : Place) (s t : List Char) :
    outline p (s ++ t) = outline p s ++ outline (p.after s) t := by
  induction s generalizing p with
  | nil => rfl
  | cons c rest ih =>
    simp only [List.cons_append, outline, Place.after, List.foldl_cons, ih]
    split
    · rfl
    · rfl

theorem Place.after_append (p : Place) (s t : List Char) :
    p.after (s ++ t) = (p.after s).after t := List.foldl_append

/-- Data without the beginning of a tag is not taken for anything else. -/
theorem outline_text {s : List Char} (h : '<' ∉ s) :
    outline .text s = [] ∧ Place.after .text s = .text := by
  induction s with
  | nil => exact ⟨rfl, rfl⟩
  | cons c rest ih =>
    rw [List.mem_cons, not_or] at h
    simpa [outline, Place.after, Place.next, Place.isMarkup, Ne.symm h.1] using ih h.2

theorem outline_value {s : List Char} (h : '"' ∉ s) :
    outline .value s = [] ∧ Place.after .value s = .value := by
  induction s with
  | nil => exact ⟨rfl, rfl⟩
  | cons c rest ih =>
    rw [List.mem_cons, not_or] at h
    simpa [outline, Place.after, Place.next, Place.isMarkup, Ne.symm h.1] using ih h.2

/-- All of a text is markup to a reader, who comes from one place to another over it. -/
structure Passes (p q : Place) (s : List Char) : Prop where
  kept : outline p s = s
  ends : p.after s = q

theorem Passes.append {p q r : Place} {s t : List Char} (hs : Passes p q s)
    (ht : Passes q r t) : Passes p r (s ++ t) where
  kept := by rw [outline_append, hs.kept, hs.ends, ht.kept]
  ends := by rw [Place.after_append, hs.ends, ht.ends]

/-- In a tag nothing is data until a value begins. -/
theorem passes_tag {s : List Char} (h : ∀ c ∈ s, c ≠ '"' ∧ c ≠ '>') : Passes .tag .tag s := by
  induction s with
  | nil => exact ⟨rfl, rfl⟩
  | cons c rest ih =>
    obtain ⟨hquote, hend⟩ := h c List.mem_cons_self
    have hrest := ih fun d hd => h d (List.mem_cons_of_mem c hd)
    have hc : Place.next .tag c = .tag := by simp [Place.next, Place.nextInTag, hquote, hend]
    have hfirst : Passes .tag .tag [c] := ⟨rfl, hc⟩
    exact hfirst.append hrest

/-- The markup of a template. -/
def fixed (template : List Slot) : List Char :=
  template.flatMap fun
    | .markup s => s
    | _ => []

namespace Slot

/-- Where a slot leads a reader, if it stands in the right place: markup is taken for
markup, a hole for a text is between tags, and one for a value is between quotes. -/
def leads (p : Place) : Slot → Option Place
  | .markup s => if outline p s = s then some (p.after s) else none
  | .text => if p = .text then some .text else none
  | .value => if p = .value then some .value else none

end Slot

theorem leads_markup {p q : Place} {s : List Char} :
    Slot.leads p (.markup s) = some q ↔ Passes p q s := by
  rw [Slot.leads, Option.ite_none_right_eq_some, Option.some.injEq]
  exact ⟨fun h => ⟨h.1, h.2⟩, fun h => ⟨h.kept, h.ends⟩⟩

/-- Where a template leads a reader, if all is in the right place. -/
def walk : Place → List Slot → Option Place
  | p, [] => some p
  | p, slot :: rest => (slot.leads p).bind fun q => walk q rest

theorem walk_cons {p q : Place} {slot : Slot} (h : slot.leads p = some q) (rest : List Slot) :
    walk p (slot :: rest) = walk q rest := by
  rw [walk, h, Option.bind_some]

theorem walk_append {p q : Place} {first : List Slot} (h : walk p first = some q)
    (second : List Slot) : walk p (first ++ second) = walk q second := by
  induction first generalizing p with
  | nil =>
    cases h
    rfl
  | cons slot rest ih =>
    obtain ⟨middle, hslot, hrest⟩ := Option.bind_eq_some_iff.mp h
    simp only [List.cons_append, walk, hslot, Option.bind_some]
    exact ih hrest

/-- Whatever fills the holes, a reader takes the markup of the template for markup and
nothing else. -/
theorem outline_filled {p q : Place} {template : List Slot} {strings : List String}
    {out : List Char} (hfilled : Filled template strings out) (h : walk p template = some q) :
    outline p out = fixed template ∧ p.after out = q := by
  induction hfilled generalizing p with
  | nil =>
    cases h
    exact ⟨rfl, rfl⟩
  | markup s hrest ih =>
    obtain ⟨middle, hslot, hwalk⟩ := Option.bind_eq_some_iff.mp h
    have hs := leads_markup.mp hslot
    obtain ⟨hmarkup, hend⟩ := ih hwalk
    rw [outline_append, Place.after_append, hs.kept, hs.ends, hmarkup, hend]
    exact ⟨rfl, rfl⟩
  | text hencodes hrest ih =>
    obtain ⟨middle, hslot, hwalk⟩ := Option.bind_eq_some_iff.mp h
    obtain ⟨rfl, hmiddle⟩ := Option.ite_none_right_eq_some.mp hslot
    obtain rfl := Option.some.inj hmiddle
    obtain ⟨hmarkup, hend⟩ := ih hwalk
    have hclean := hencodes.clean .lt (by simp [Entity.inText]) (by simp)
    obtain ⟨hnone, hplace⟩ := outline_text hclean
    rw [outline_append, Place.after_append, hnone, hplace, hmarkup, hend]
    exact ⟨rfl, rfl⟩
  | value hencodes hrest ih =>
    obtain ⟨middle, hslot, hwalk⟩ := Option.bind_eq_some_iff.mp h
    obtain ⟨rfl, hmiddle⟩ := Option.ite_none_right_eq_some.mp hslot
    obtain rfl := Option.some.inj hmiddle
    obtain ⟨hmarkup, hend⟩ := ih hwalk
    have hclean := hencodes.clean .quot (by simp [Entity.inValue]) (by simp)
    obtain ⟨hnone, hplace⟩ := outline_value hclean
    rw [outline_append, Place.after_append, hnone, hplace, hmarkup, hend]
    exact ⟨rfl, rfl⟩

def isNameChar (c : Char) : Bool := c.isLower || c.isDigit || c = '-'

/-- A name of a tag or an attribute: a small letter, and then small letters, digits and
hyphens. -/
def isName (name : String) : Bool :=
  match name.toList with
  | [] => false
  | c :: rest => c.isLower && rest.all isNameChar

def Attribute.name : Attribute → String
  | .pair name _ => name
  | .flag name => name

mutual

def Node.names : Node → List String
  | .element tag attributes children =>
    tag :: attributes.map Attribute.name ++ names children
  | .void tag attributes => tag :: attributes.map Attribute.name
  | _ => []

/-- The names of all tags and attributes. -/
def names : List Node → List String
  | [] => []
  | node :: rest => node.names ++ names rest

end

/-- No character of a name ends a tag or begins a value. -/
theorem ne_of_isNameChar {c : Char} (h : isNameChar c = true) : c ≠ '"' ∧ c ≠ '>' := by
  constructor
  · rintro rfl
    simp [isNameChar] at h
  · rintro rfl
    simp [isNameChar] at h

section Names

variable {name : String} (h : isName name = true)

include h

theorem toList_of_isName : ∃ c rest, name.toList = c :: rest ∧ c ≠ '!' ∧
    ∀ d ∈ name.toList, d ≠ '"' ∧ d ≠ '>' := by
  unfold isName at h
  cases hname : name.toList with
  | nil => simp [hname] at h
  | cons c rest =>
    rw [hname] at h
    obtain ⟨hc, hrest⟩ := Bool.and_eq_true_iff.mp h
    refine ⟨c, rest, rfl, ?_, ?_⟩
    · rintro rfl
      simp at hc
    · intro d hd
      rcases List.mem_cons.mp hd with rfl | hd
      · exact ne_of_isNameChar (by simp [isNameChar, hc])
      · exact ne_of_isNameChar (List.all_eq_true.mp hrest d hd)

theorem passes_name : Passes .tag .tag name.toList := by
  obtain ⟨_, _, _, _, hclean⟩ := toList_of_isName h
  exact passes_tag hclean

theorem passes_opened : Passes (.opening 1) .tag name.toList := by
  obtain ⟨c, rest, hname, hc, hclean⟩ := toList_of_isName h
  rw [hname] at hclean ⊢
  obtain ⟨hquote, hend⟩ := hclean c List.mem_cons_self
  have hfirst : Passes (.opening 1) .tag [c] := by
    constructor
    · rfl
    · simp [Place.after, Place.next, Place.nextInTag, hc, hquote, hend]
  exact hfirst.append (passes_tag fun d hd => hclean d (List.mem_cons_of_mem c hd))

theorem passes_openTag : Passes .text .tag ('<' :: name.toList) := by
  have hopen : Passes .text (.opening 1) ['<'] := ⟨by decide, by decide⟩
  exact hopen.append (passes_opened h)

theorem passes_closeTag : Passes .text .text (closeTag name) := by
  have hopen : Passes .text .tag ['<', '/'] := ⟨by decide, by decide⟩
  have hend : Passes .tag .text ['>'] := ⟨by decide, by decide⟩
  exact (hopen.append (passes_name h)).append hend

theorem passes_flag : Passes .tag .tag (' ' :: name.toList) := by
  have hblank : Passes .tag .tag [' '] := ⟨by decide, by decide⟩
  exact hblank.append (passes_name h)

theorem passes_key : Passes .tag .value (' ' :: name.toList ++ ['=', '"']) := by
  have hquote : Passes .tag .value ['=', '"'] := ⟨by decide, by decide⟩
  exact (passes_flag h).append hquote

end Names

theorem walk_attribute {a : Attribute} (h : isName a.name = true) :
    walk .tag (a.pieces.map Piece.slot) = some .tag := by
  cases a with
  | pair name value =>
    have hkey := leads_markup.mpr (passes_key h)
    have hquote : Slot.leads .value (.markup ['"']) = some .tag := by decide
    exact (walk_cons hkey _).trans (walk_cons hquote [])
  | flag name =>
    have hflag := leads_markup.mpr (passes_flag h)
    exact walk_cons hflag []

theorem walk_attributes {attributes : List Attribute}
    (h : ∀ a ∈ attributes, isName a.name = true) :
    walk .tag ((attributes.flatMap Attribute.pieces).map Piece.slot) = some .tag := by
  induction attributes with
  | nil => rfl
  | cons a rest ih =>
    rw [List.forall_mem_cons] at h
    rw [List.flatMap_cons, List.map_append, walk_append (walk_attribute h.1)]
    exact ih h.2

theorem walk_tagPieces {tag : String} {attributes : List Attribute} (htag : isName tag = true)
    (h : ∀ a ∈ attributes, isName a.name = true) :
    walk .text ((tagPieces tag attributes).map Piece.slot) = some .text := by
  have hopen := leads_markup.mpr (passes_openTag htag)
  have hend : walk .tag [.markup ['>']] = some .text := by decide
  rw [tagPieces, List.cons_append, List.map_cons, List.map_append, Piece.slot, walk_cons hopen,
    walk_append (walk_attributes h)]
  exact hend

mutual

theorem Node.walk_slots : (node : Node) → (∀ n ∈ node.names, isName n = true) →
    walk .text (node.pieces.map Piece.slot) = some .text
  | .text s, _ => rfl
  | .element tag attributes children, h => by
    simp only [Node.names, List.forall_mem_append, List.forall_mem_cons, List.forall_mem_map] at h
    obtain ⟨⟨htag, hattributes⟩, hchildren⟩ := h
    have hclose := leads_markup.mpr (passes_closeTag htag)
    rw [Node.pieces, List.map_append, List.map_append, ← slots, List.append_assoc,
      walk_append (walk_tagPieces htag hattributes), walk_append (walk_slots children hchildren)]
    exact walk_cons hclose []
  | .void tag attributes, h => by
    simp only [Node.names, List.forall_mem_cons, List.forall_mem_map] at h
    exact walk_tagPieces h.1 h.2
  | .absent, _ => by decide
  | .listEnd, _ => by decide

/-- If all names are names then all is in the right place. -/
theorem walk_slots : (nodes : List Node) → (∀ n ∈ names nodes, isName n = true) →
    walk .text (slots nodes) = some .text
  | [], _ => rfl
  | node :: rest, h => by
    rw [names, List.forall_mem_append] at h
    rw [slots, pieces, List.map_append, walk_append (Node.walk_slots node h.1)]
    exact walk_slots rest h.2

end

/-- No tree of nodes with proper names can be disturbed by its strings: whatever else might
fill its template, the markup stays the same. -/
theorem outline_slots {nodes : List Node} (h : ∀ n ∈ names nodes, isName n = true)
    {strings : List String} {out : List Char} (hfilled : Filled (slots nodes) strings out) :
    outline .text out = fixed (slots nodes) :=
  (outline_filled hfilled (walk_slots nodes h)).1

end AccountPortal.Markup
