/-!
A message carried across one change of page. Taking it empties the slot, so it
is shown once.
-/

namespace AccountPortal.Form

structure Flash where
  message : Option String
  deriving DecidableEq, Repr

namespace Flash

def empty : Flash := ⟨none⟩

/-- Leaves a message, over any that is still there. -/
def set (_ : Flash) (message : String) : Flash := ⟨some message⟩

def take (flash : Flash) : Option String × Flash := (flash.message, empty)

end Flash

end AccountPortal.Form
