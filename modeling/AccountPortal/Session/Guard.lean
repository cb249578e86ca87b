import AccountPortal.Route
import AccountPortal.Session.State

/-!
The guard of pages that need an account. It watches the session state and sends
the visitor to the login page, once at most. The state may change many times
between two looks of the guard; each look sees the latest state, and the guard
looks only if the state was set since it last did.
-/

namespace AccountPortal.Session

/-- Lets one departure pass. -/
structure Latch where
  spent : Bool
  deriving DecidableEq, Repr

namespace Latch

def fresh : Latch := ⟨false⟩

/-- Whether this state is the first that asks to leave, and the latch afterwards. -/
def fire (latch : Latch) (s : State) : Bool × Latch :=
  if latch.spent || !s.mustLeave then (false, latch) else (true, ⟨true⟩)

end Latch

structure Guard where
  state : State
  latch : Latch
  /-- The state was set since the guard last looked. -/
  stale : Bool
  deriving DecidableEq, Repr

namespace Guard

def install (s : State) : Guard := ⟨s, .fresh, true⟩

inductive Event where
  | set (s : State)
  | tick
  deriving DecidableEq, Repr

/-- The guard after an event, and where it sends the visitor. -/
def step (g : Guard) : Event → Guard × List Navigation
  | .set s => ({ g with state := s, stale := true }, [])
  | .tick =>
    if g.stale then
      let (fires, latch) := g.latch.fire g.state
      ({ g with latch := latch, stale := false }, if fires then [.to .login] else [])
    else (g, [])

end Guard

end AccountPortal.Session
