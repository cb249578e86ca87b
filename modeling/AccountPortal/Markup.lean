/-!
Markup as a tree and its text. Character data can only enter the text through
`encodeText` and `encodeAttribute`, so no value of a text or an attribute can
open or close an element.
-/

namespace AccountPortal

namespace Markup

inductive Attribute where
  | pair (name value : String)
  /-- An attribute that is on by being there. -/
  | flag (name : String)
  deriving DecidableEq, Repr

inductive Node where
  | text (s : String)
  | element (tag : String) (attributes : List Attribute) (children : List Node)
  /-- An element without content and without an end tag. -/
  | void (tag : String) (attributes : List Attribute)
  /-- The place of something that is not shown at present. -/
  | absent
  /-- The end of a list of elements of varying length. -/
  | listEnd
  deriving Repr

def encodeTextChar (c : Char) : List Char :=
  if c = '&' then ['&', 'a', 'm', 'p', ';']
  else if c = '<' then ['&', 'l', 't', ';']
  else if c = '>' then ['&', 'g', 't', ';']
  else [c]

def encodeAttributeChar (c : Char) : List Char :=
  if c = '"' then ['&', 'q', 'u', 'o', 't', ';'] else encodeTextChar c

/-- Character data between tags. Empty data is kept visible as one space. -/
def encodeText (s : List Char) : List Char :=
  if s.isEmpty then [' '] else s.flatMap encodeTextChar

/-- Character data between double quotes. -/
def encodeAttribute (s : List Char) : List Char :=
  s.flatMap encodeAttributeChar

def Attribute.render : Attribute → List Char
  | .pair name value =>
    ' ' :: name.toList ++ ['=', '"'] ++ encodeAttribute value.toList ++ ['"']
  | .flag name => ' ' :: name.toList

def openTag (tag : String) (attributes : List Attribute) : List Char :=
  '<' :: tag.toList ++ attributes.flatMap Attribute.render ++ ['>']

def closeTag (tag : String) : List Char :=
  '<' :: '/' :: tag.toList ++ ['>']

mutual

def Node.render : Node → List Char
  | .text s => encodeText s.toList
  | .element tag attributes children =>
    openTag tag attributes ++ renderAll children ++ closeTag tag
  | .void tag attributes => openTag tag attributes
  | .absent => "<!><!--<() />-->".toList
  | .listEnd => "<!>".toList

def renderAll : List Node → List Char
  | [] => []
  | node :: rest => node.render ++ renderAll rest

end

def html (nodes : List Node) : String :=
  String.ofList (renderAll nodes)

def classed (tag cls : String) (children : List Node) : Node :=
  .element tag [.pair "class" cls] children

def plain (tag : String) (children : List Node) : Node :=
  .element tag [] children

/-- An attribute that is there only if a condition holds. -/
def flagIf (condition : Bool) (name : String) : List Attribute :=
  if condition then [.flag name] else []

/-- A node for a value that may be missing. -/
def shown {α : Type} (f : α → Node) : Option α → Node
  | some a => f a
  | none => .absent

end Markup

end AccountPortal
