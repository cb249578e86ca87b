/-!
Where a form is in its attempt to be submitted.
-/

namespace AccountPortal.Form

/-- An attempt goes from `idle` through `validating` and `submitting` to success
or failure; a form without rules skips `validating`. -/
inductive Status where
  | idle
  | validating
  | submitting
  | succeeded
  | failed (message : String)
  deriving DecidableEq, Repr

namespace Status

def initial : Status := .idle

/-- An attempt is under way, and further ones are ignored. -/
def isBusy : Status → Bool
  | .validating | .submitting => true
  | _ => false

def error? : Status → Option String
  | .failed message => some message
  | _ => none

end Status

end AccountPortal.Form
