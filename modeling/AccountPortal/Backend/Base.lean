import AccountPortal.Text.Blank

/-!
The base address of the account backend. It is trimmed when it is built: no
blanks around it, no slash at its end, and never empty.
-/

namespace AccountPortal.Backend

def defaultAddress : String := "http://localhost:8000/api"

def trimAddress (s : List Char) : List Char :=
  Text.dropTailWhile (· == '/') (Text.trimChars s)

structure Base where
  address : String
  deriving DecidableEq, Repr

namespace Base

/-- The base at an address; the default address stands in for one that is blank. -/
def ofAddress (s : String) : Base :=
  match trimAddress s.toList with
  | [] => ⟨defaultAddress⟩
  | kept => ⟨String.ofList kept⟩

def default : Base := ofAddress defaultAddress

/-- The address of an endpoint: one slash joins it to the base. -/
def endpoint (base : Base) (path : String) : String :=
  base.address ++ "/" ++ String.ofList (path.toList.dropWhile (· == '/'))

end Base

end AccountPortal.Backend
