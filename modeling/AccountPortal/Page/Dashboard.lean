import AccountPortal.Backend.Flow
import AccountPortal.Form.Flash
import AccountPortal.Page.Component
import AccountPortal.Page.Program
import AccountPortal.Session.Guard

/-!
The dashboard. Mounting it asks for the account; anything but an account sends
the visitor to the login page, once. The logout button works once, and whatever
the backend answers, the visitor leaves for the login page.
-/

namespace AccountPortal.Page.Dashboard

open Form Markup Backend

structure State where
  guard : Session.Guard
  loggingOut : Bool
  flash : Flash
  deriving DecidableEq, Repr

inductive Event where
  | logout
  deriving DecidableEq, Repr

inductive Task where
  | load
  | logout
  deriving DecidableEq, Repr

def initial (flash : Flash) : State := ⟨.install .loadingNow, false, flash⟩

/-- Lets the guard look at the session state. -/
def look (s : State) : Reaction State Task :=
  let (guard, navigated) := s.guard.step .tick
  { state := { s with guard := guard }, navigated := navigated }

def mount (flash : Flash) : Reaction State Task :=
  { state := initial flash, started := [.load] }

/-- The button to log out is there while the account is shown. -/
def hasLogout (s : State) : Bool := s.guard.state.user.isSome

def handle (s : State) : Event → Reaction State Task
  | .logout =>
    if s.loggingOut then .quiet s
    else { state := { s with loggingOut := true }, started := [.logout] }

def loaded (s : State) (load : Session.Load) : State :=
  { s with guard := (s.guard.step (.set (.ofLoad load))).1 }

def program : Program State Event Task where
  handle := handle
  task
    | .load => loadDashboard.map fun load s => .quiet (loaded s load)
    | .logout => signOut.map fun route s => { state := s, navigated := [.to route] }
  settle := look

def fact (name value : String) : List Node :=
  [plain "dt" [.text name], plain "dd" [.text value]]

def inertButton (label : String) : Node :=
  .element "button" [.pair "type" "button", .flag "disabled", .pair "class" "btn"] [.text label]

/-- The page for an account. -/
def accountView (current : CurrentUser) (loggingOut : Bool) : Node :=
  let linked := current.profile.any Profile.linked
  let voice := current.profile.any Profile.voiceCommands
  classed "div" "dashboard-page" [
    classed "header" "dashboard-page__header" [
      classed "span" "dashboard-page__brand" [.text "🎵 Spotify Voice Manager"],
      classed "span" "dashboard-page__spacer" [],
      classed "span" "dashboard-page__greeting" [
        .text "Welcome, ", plain "strong" [.text current.user.username], .text "!"],
      .element "button"
        (flagIf loggingOut "disabled" ++ [.pair "class" "btn dashboard-page__logout"])
        [.text "Logout"]],
    classed "main" "dashboard-page__body" [
      plain "h1" [.text "Dashboard"],
      classed "div" "dashboard-page__cards" [
        classed "section" "card" [
          plain "h2" [.text "👤 User Information"],
          classed "dl" "card__fields" (
            fact "Username" current.user.username ++
            fact "Email" current.user.email ++
            fact "Spotify account" (if linked then "Linked" else "Not linked") ++
            fact "Voice commands" (if voice then "Enabled" else "Disabled"))],
        classed "section" "card" [
          plain "h2" [.text "⚡ Quick Actions"],
          classed "p" "card__hint" [.text "Playlist management is coming soon."],
          classed "div" "card__actions"
            [inertButton "View Playlists", inertButton "Create Playlist"]]]]]

def waitingView (loading : Bool) : Node :=
  classed "div" "dashboard-page dashboard-page--loading"
    [plain "p" [.text (if loading then "Loading..." else "Redirecting to login...")]]

def view (s : State) : List Node :=
  match s.guard.state.user with
  | some current => [accountView current s.loggingOut]
  | none => [waitingView s.guard.state.loading]

end AccountPortal.Page.Dashboard
