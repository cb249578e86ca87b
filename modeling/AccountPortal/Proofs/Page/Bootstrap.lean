import AccountPortal.Page.App
import AccountPortal.Proofs.Browser.Isolation
import AccountPortal.Proofs.Page.LoginRun
import AccountPortal.Proofs.Page.SignupRun

/-!
The pages of the site beside the bootstrap. No page has a task whose conclusion depends
on the store or starts another task, and the guard of the dashboard looks once at what
was set. So none of them can tell when the reply to the bootstrap arrives.
-/
namespace AccountPortal.Page

open Backend Browser Cookie Dialogue Form Http Markup

theorem Login.composed : Composed Login.program where
  jar _ _ _ _ := rfl
  conclude credentials outcome jar s := by
    rw [Login.task_conclude]
    split <;> rfl
  settle _ := rfl
  again _ := rfl

theorem Signup.composed : Composed Signup.program where
  jar _ _ _ _ := rfl
  conclude registration outcome jar s := by
    rw [Signup.task_conclude]
    split <;> rfl
  settle _ := rfl
  again _ := rfl

/-- A guard that has looked does not look again. -/
theorem Dashboard.look_look (s : Dashboard.State) :
    Dashboard.look (Dashboard.look s).state = .quiet (Dashboard.look s).state := by
  obtain ⟨⟨state, latch, stale⟩, loggingOut, flash⟩ := s
  cases stale with
  | false => rfl
  | true => rfl

theorem Dashboard.composed : Composed Dashboard.program where
  jar task _ _ _ := by
    cases task with
    | load => rfl
    | logout => rfl
  conclude task outcome jar s := by
    cases task with
    | load => rfl
    | logout => rfl
  settle _ := rfl
  again := Dashboard.look_look

/-- The page that the site is opened on in a browser, on an empty flash slot. -/
def openedView (base : Base) (jar : Jar) (path : List Char) : Route → List Node
  | .login => Login.view path (openSite Login.program base jar (.quiet (Login.mount .empty))).1.page
  | .signup =>
    Signup.view path (openSite Signup.program base jar (.quiet (Signup.mount .empty))).1.page
  | .dashboard =>
    Dashboard.view (openSite Dashboard.program base jar (Dashboard.mount .empty)).1.page

/-- The application shows the page that the site is opened on. -/
theorem view_eq_openedView (base : Base) (jar : Jar) {path : List Char} {route : Route}
    (h : App.route? path = some (.page route)) :
    App.view path = openedView base jar path route := by
  rw [App.view, h]
  cases route <;> simp only [openedView, openSite, mount_eq] <;> rfl

end AccountPortal.Page
