import AccountPortal.Host.Address
import AccountPortal.Text.Blank
import AccountPortal.Text.Quoted

/-!
Where the server listens. Both settings come from variables, are trimmed, and
have a default that also stands in for a blank value. The host is checked first.
-/

namespace AccountPortal.Host

structure Config where
  host : Address
  port : UInt16
  deriving DecidableEq, Repr

inductive Setting where
  | host
  | port
  deriving DecidableEq, Repr

def Setting.name : Setting → String
  | .host => "HOST"
  | .port => "PORT"

/-- A setting whose trimmed value cannot be used. -/
structure ConfigError where
  setting : Setting
  value : String
  deriving DecidableEq, Repr

def ConfigError.message (e : ConfigError) : String :=
  "invalid " ++ e.setting.name ++ ": " ++ Text.quoted e.value

namespace Config

/-- Every address of the machine. -/
def defaultHost : Address := .v4 0 0 0 0

def defaultPort : UInt16 := 3000

def parsePort? (s : List Char) : Option UInt16 :=
  match Unsigned.parse 65536 s with
  | .ok n => some (UInt16.ofNat n)
  | .error _ => none

/-- The value of a setting, or its default if its variable is absent or blank. -/
def readSetting {α : Type} (lookup : String → Option String) (setting : Setting) (default : α)
    (parse? : List Char → Option α) : Except ConfigError α :=
  match (lookup setting.name).map fun raw => Text.trimChars raw.toList with
  | none | some [] => .ok default
  | some value =>
    match parse? value with
    | some a => .ok a
    | none => .error ⟨setting, String.ofList value⟩

/-- The configuration that variables describe. -/
def ofLookup (lookup : String → Option String) : Except ConfigError Config := do
  let host ← readSetting lookup .host defaultHost Address.parse?
  let port ← readSetting lookup .port defaultPort parsePort?
  return ⟨host, port⟩

def bindAddress (c : Config) : String := c.host.withPort c.port

end Config

end AccountPortal.Host
