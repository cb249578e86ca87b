/-!
Accounts as the backend knows them.
-/

namespace AccountPortal

/-- An account. The identifier is an integer of 64 bits. -/
structure User where
  id : Int
  username : String
  email : String
  firstName : Option String
  lastName : Option String
  deriving DecidableEq, Repr

structure Profile where
  spotifyId : Option String
  voiceCommands : Bool
  suggestions : Bool
  deriving DecidableEq, Repr

/-- A music account is linked once it has an identifier that is not empty. -/
def Profile.linked (p : Profile) : Bool :=
  match p.spotifyId with
  | some id => id != ""
  | none => false

structure CurrentUser where
  user : User
  profile : Option Profile
  deriving DecidableEq, Repr

structure Receipt where
  user : Option User
  message : Option String
  deriving DecidableEq, Repr

def Receipt.empty : Receipt := ⟨none, none⟩

structure Credentials where
  email : String
  password : String
  deriving DecidableEq, Repr

structure Registration where
  username : String
  email : String
  password : String
  deriving DecidableEq, Repr

end AccountPortal
