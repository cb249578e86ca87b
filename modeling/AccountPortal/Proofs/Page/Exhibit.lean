import AccountPortal.Page.Component

/-!
What a visitor finds on a page: its banners, and the controls of its form with
whether they are disabled. It is read off the markup, element by element, and
each part of a page adds to it what the part is there for. The texts of a page
and its buttons are read off in the same way.
-/
namespace AccountPortal.Page

open Markup

inductive Finding where
  /-- An input of a form, or the button that submits it. -/
  | control (disabled : Bool)
  | banner (role text : String)
  deriving DecidableEq

/-- The first role among attributes. -/
def role? : List Attribute → Option String
  | [] => none
  | .pair name value :: rest => if name = "role" then some value else role? rest
  | .flag _ :: rest => role? rest

/-- The text that stands directly inside an element. -/
def ownText : List Node → String
  | [] => ""
  | .text s :: rest => s ++ ownText rest
  | _ :: rest => ownText rest

/-- What an element is to a visitor, its content left aside. -/
def finding (tag : String) (attributes : List Attribute) (content : List Node) : List Finding :=
  if tag = "input" ∨ .pair "type" "submit" ∈ attributes then
    [.control (decide (.flag "disabled" ∈ attributes))]
  else
    match role? attributes with
    | some role => [.banner role (ownText content)]
    | none => []

mutual

def findingsIn : Node → List Finding
  | .text _ => []
  | .element tag attributes children =>
    finding tag attributes children ++ findings children
  | .void tag attributes => finding tag attributes []
  | .absent => []
  | .listEnd => []

/-- What is found in nodes, in the order of the page. -/
def findings : List Node → List Finding
  | [] => []
  | node :: rest => findingsIn node ++ findings rest

end

mutual

def textsIn : Node → List String
  | .text s => [s]
  | .element _ _ children => texts children
  | _ => []

/-- The texts of nodes, in the order of the page. -/
def texts : List Node → List String
  | [] => []
  | node :: rest => textsIn node ++ texts rest

end

mutual

def buttonsIn : Node → List (String × Bool)
  | .element tag attributes children =>
    (if tag = "button" then [(ownText children, decide (.flag "disabled" ∈ attributes))] else []) ++
      buttons children
  | _ => []

/-- The buttons among nodes, with their labels and whether they are disabled. -/
def buttons : List Node → List (String × Bool)
  | [] => []
  | node :: rest => buttonsIn node ++ buttons rest

end

attribute [local simp] role? ownText finding findingsIn findings

theorem findings_append (a b : List Node) : findings (a ++ b) = findings a ++ findings b := by
  induction a with
  | nil => rfl
  | cons node rest ih => simp only [List.cons_append, findings, ih, List.append_assoc]

/-- An element with no attribute but its class is nothing but its content. -/
theorem findingsIn_classed (tag cls : String) (content : List Node) (h : tag ≠ "input") :
    findingsIn (classed tag cls content) = findings content := by
  simp [classed, h]

theorem findingsIn_plain (tag : String) (content : List Node) (h : tag ≠ "input") :
    findingsIn (plain tag content) = findings content := by
  simp [plain, h]

theorem findingsIn_card (title subtitle : String) (content : List Node) :
    findingsIn (card title subtitle content) = findings content := by
  simp [card, findingsIn_classed, findingsIn_plain]

theorem findingsIn_errorAlert (message : Option String) :
    findingsIn (errorAlert message) = message.toList.map (.banner "alert") := by
  cases message with
  | none => rfl
  | some m => simp [errorAlert, shown]

theorem findingsIn_noticeAlert (message : Option String) :
    findingsIn (noticeAlert message) = message.toList.map (.banner "status") := by
  cases message with
  | none => rfl
  | some m => simp [noticeAlert, shown]

theorem findingsIn_input (input : Input) :
    findingsIn input.view = [.control input.disabled] := by
  cases h : input.disabled with
  | true => simp [Input.view, findingsIn_classed, flagIf, h]
  | false => simp [Input.view, findingsIn_classed, flagIf, h]

theorem findingsIn_submitButton (disabled : Bool) (label : String) :
    findingsIn (submitButton disabled label) = [.control disabled] := by
  cases disabled with
  | true => simp [submitButton, flagIf]
  | false => simp [submitButton, flagIf]

theorem findings_providerButtons (verb : String) (tried : Option Provider) :
    findings (providerButtons verb tried) = [] := by
  cases tried with
  | none =>
    simp [providerButtons, Provider.all, shown, findingsIn_classed, findingsIn_plain]
  | some p =>
    simp [providerButtons, Provider.all, shown, findingsIn_classed, findingsIn_plain]

theorem findingsIn_footer (lead : String) (route : Route) (label : String) (path : List Char) :
    findingsIn (footer lead route label path) = [] := by
  cases h : Location.isCurrent route.path path with
  | true => simp [footer, link, findingsIn_classed, h]
  | false => simp [footer, link, findingsIn_classed, h]

end AccountPortal.Page
