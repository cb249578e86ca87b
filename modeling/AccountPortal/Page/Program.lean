import AccountPortal.Backend.Exchange
import AccountPortal.Route

/-!
Pages as programs. A page reacts to an event at once and may start tasks; a task
is one exchange with the backend, and its conclusion is again a reaction of the
page, in whatever state the page is by then. What a page watches in its own
state it looks at once its tasks have run, and not in between.
-/

namespace AccountPortal.Page

open Backend

/-- What an event or a conclusion leads to. -/
structure Reaction (σ τ : Type) where
  state : σ
  /-- How often the browser's own handling of the event was called off. -/
  prevented : Nat := 0
  log : List LogLine := []
  navigated : List Navigation := []
  started : List τ := []

def Reaction.quiet {σ τ : Type} (s : σ) : Reaction σ τ := { state := s }

structure Program (σ ε τ : Type) where
  handle : σ → ε → Reaction σ τ
  task : τ → Exchange (σ → Reaction σ τ)
  settle : σ → Reaction σ τ := .quiet

end AccountPortal.Page
