import AccountPortal.Markup
import AccountPortal.Page.Location
import AccountPortal.Route

/-!
The parts that the pages share: the card around a form, the two banners, a
labelled input, and the buttons of providers that visitors may one day sign in
with.
-/

namespace AccountPortal.Page

open Markup

def card (title subtitle : String) (content : List Node) : Node :=
  classed "div" "auth-page" [
    classed "div" "auth-card" (
      classed "div" "auth-card__header" [
        .element "div" [.pair "class" "auth-card__logo", .pair "aria-hidden" "true"]
          [.text "🎵"],
        plain "h1" [.text title],
        classed "p" "auth-card__subtitle" [.text subtitle]] ::
      content)]

/-- The banner of a failure. -/
def errorAlert (message : Option String) : Node :=
  shown (fun m => .element "div" [.pair "role" "alert", .pair "class" "alert alert--error"]
    [.text m]) message

def noticeAlert (message : Option String) : Node :=
  shown (fun m => .element "div" [.pair "role" "status", .pair "class" "alert alert--notice"]
    [.text m]) message

/-- An input with its label. What has been typed is a property of the live input
and not part of the markup. -/
structure Input where
  id : String
  label : String
  kind : String := "text"
  placeholder : String := ""
  disabled : Bool
  value : String := ""

def Input.view (input : Input) : Node :=
  classed "div" "form-field" [
    .element "label" [.pair "for" input.id, .pair "class" "form-field__label"]
      [.text input.label],
    .void "input" (
      [.pair "id" input.id, .pair "name" input.id, .pair "type" input.kind,
        .pair "placeholder" input.placeholder] ++
      flagIf input.disabled "disabled" ++ [.pair "class" "form-field__input"])]

def submitButton (disabled : Bool) (label : String) : Node :=
  .element "button"
    (.pair "type" "submit" :: flagIf disabled "disabled" ++ [.pair "class" "auth-button"])
    [.text label]

/-- Those who vouch for visitors elsewhere. None of them is connected yet. -/
inductive Provider where
  | google
  | spotify
  deriving DecidableEq, Repr

namespace Provider

def all : List Provider := [.google, .spotify]

def label : Provider → String
  | .google => "Google"
  | .spotify => "Spotify"

def notice (p : Provider) : String :=
  p.label ++ " sign-in is not available yet."

def logText (p : Provider) : String :=
  p.label ++ " sign-in requested but not implemented"

end Provider

def providerButtons (verb : String) (tried : Option Provider) : List Node :=
  [classed "div" "auth-divider" [plain "span" [.text "OR"]],
    classed "div" "oauth-buttons" (
      Provider.all.map (fun p =>
        .element "button" [.pair "type" "button", .pair "title" "Not available yet",
          .pair "class" "oauth-button"] [.text (verb ++ " with " ++ p.label)]) ++
      [.listEnd]),
    shown (fun p => classed "p" "oauth-buttons__notice" [.text (Provider.notice p)]) tried]

/-- A link, marked as current on its own page and on those below it. -/
def link (route : Route) (label : String) (path : List Char) : Node :=
  .element "a"
    (.pair "href" route.path ::
      if Location.isCurrent route.path path then [.pair "aria-current" "page"] else [])
    [.text label]

def footer (lead : String) (route : Route) (label : String) (path : List Char) : Node :=
  classed "p" "auth-card__footer" [.text lead, link route label path]

end AccountPortal.Page
