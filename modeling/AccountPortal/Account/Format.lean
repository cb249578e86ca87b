import AccountPortal.Account
import AccountPortal.Json.Record
import AccountPortal.Json.Writer

/-!
The JSON form of accounts. Optional fields may be absent or `null`, switches may
be absent, and members with other names are ignored, so a backend that says more
is still understood.
-/

namespace AccountPortal

open Json

structure UserDraft where
  id : Option Int := none
  username : Option String := none
  email : Option String := none
  firstName : Option (Option String) := none
  lastName : Option (Option String) := none

def needField {α : Type} (name : String) : Option α → Except String α
  | some a => .ok a
  | none => .error name

def User.form : RecordForm UserDraft User where
  title := "struct User"
  empty := {}
  fields := [
    .of "id" true (·.id) (fun x d => { d with id := some x }) .int64,
    .of "username" true (·.username) (fun x d => { d with username := some x }) .text,
    .of "email" true (·.email) (fun x d => { d with email := some x }) .text,
    .of "first_name" false (·.firstName) (fun x d => { d with firstName := some x })
      (.optional .text),
    .of "last_name" false (·.lastName) (fun x d => { d with lastName := some x })
      (.optional .text)]
  build d := do
    let id ← needField "id" d.id
    let username ← needField "username" d.username
    let email ← needField "email" d.email
    return ⟨id, username, email, d.firstName.join, d.lastName.join⟩

def User.shape : Shape User := User.form.shape

structure ProfileDraft where
  spotifyId : Option (Option String) := none
  voiceCommands : Option Bool := none
  suggestions : Option Bool := none

def Profile.form : RecordForm ProfileDraft Profile where
  title := "struct AccountProfile"
  empty := {}
  fields := [
    .of "spotify_user_id" false (·.spotifyId) (fun x d => { d with spotifyId := some x })
      (.optional .text),
    .of "voice_commands_enabled" false (·.voiceCommands)
      (fun x d => { d with voiceCommands := some x }) .flag,
    .of "ai_suggestions_enabled" false (·.suggestions)
      (fun x d => { d with suggestions := some x }) .flag]
  build d := .ok ⟨d.spotifyId.join, d.voiceCommands.getD false, d.suggestions.getD false⟩

def Profile.shape : Shape Profile := Profile.form.shape

structure ReceiptDraft where
  user : Option (Option User) := none
  message : Option (Option String) := none

def Receipt.form : RecordForm ReceiptDraft Receipt where
  title := "struct LoginResponse"
  empty := {}
  fields := [
    .of "user" false (·.user) (fun x d => { d with user := some x }) (.optional User.shape),
    .of "message" false (·.message) (fun x d => { d with message := some x }) (.optional .text)]
  build d := .ok ⟨d.user.join, d.message.join⟩

def Receipt.shape : Shape Receipt := Receipt.form.shape

structure EnvelopeDraft where
  user : Option User := none
  profile : Option (Option Profile) := none

/-- A user together with a profile, under the names `user` and `profile`. -/
def CurrentUser.envelope : RecordForm EnvelopeDraft CurrentUser where
  title := "envelope"
  empty := {}
  fields := [
    .of "user" true (·.user) (fun x d => { d with user := some x }) User.shape,
    .of "profile" false (·.profile) (fun x d => { d with profile := some x })
      (.optional Profile.shape)]
  build d := do
    let user ← needField "user" d.user
    return ⟨user, d.profile.join⟩

/-- The signed-in account that a tree holds: the envelope as an object, or else a bare user. -/
def CurrentUser.ofTree? (v : Value) : Option CurrentUser :=
  match envelope.ofObject? v with
  | some current => some current
  | none => (User.shape.ofTree? v).map fun user => ⟨user, none⟩

/-- Reads the signed-in account. Since two forms are possible the whole value is
read first, and a value of neither form has no place to blame. -/
def CurrentUser.read (s : List Char) : Read CurrentUser :=
  match readTree s with
  | .error f => .error f
  | .ok (v, rest) =>
    match ofTree? v with
    | some current => .ok (current, rest)
    | none => .error ⟨.noVariant "MeResponse", .settled none⟩

def Credentials.json (c : Credentials) : Value :=
  .object [("email", .string c.email), ("password", .string c.password)]

def Registration.json (r : Registration) : Value :=
  .object [("username", .string r.username), ("email", .string r.email),
    ("password", .string r.password)]

end AccountPortal
