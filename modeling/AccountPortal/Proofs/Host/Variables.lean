import AccountPortal.Proofs.Host.AddressText
import AccountPortal.Proofs.Host.PortText
import AccountPortal.Proofs.Text.Pieces

/-!
What the variables say about where to listen. A variable that is missing or blank leaves
its setting at the default. Any other one has to spell a value once it is trimmed, an
address or a decimal number of sixteen bits. The host is looked at first, so a port is
complained about only if there is a host to listen on.
-/
namespace AccountPortal.Host.Config

open AccountPortal.Text (Padded trim)

/-- What the trimmed value of a variable, if it has one, tells about a setting. -/
inductive Tells {α : Type} (Spells : List Char → α → Prop) (default : α) :
    Option String → α → Prop where
  | missing : Tells Spells default none default
  | blank : Tells Spells default (some "") default
  | value {text : String} {a : α} : text ≠ "" → Spells text.toList a →
      Tells Spells default (some text) a

/-- A trimmed value that is neither missing nor blank, and spells nothing. -/
def Unusable {α : Type} (Spells : List Char → α → Prop) (held : Option String)
    (text : String) : Prop :=
  held = some text ∧ text ≠ "" ∧ ∀ a, ¬ Spells text.toList a

section Setting

variable {α : Type} {lookup : String → Option String} {setting : Setting} {default : α}
  {parse? : List Char → Option α} {Spells : List Char → α → Prop}

theorem readSetting_eq : readSetting lookup setting default parse? =
    match (lookup setting.name).map trim with
    | none => .ok default
    | some text =>
      if text = "" then .ok default
      else
        match parse? text.toList with
        | some a => .ok a
        | none => .error ⟨setting, text⟩ := by
  unfold readSetting
  cases lookup setting.name with
  | none => rfl
  | some raw =>
    simp only [Option.map_some, trim]
    generalize Text.trimChars raw.toList = value
    cases value with
    | nil => rfl
    | cons c rest =>
      cases hvalue : parse? (c :: rest) with
      | none => simp [hvalue]
      | some a => simp [hvalue]

theorem readSetting_eq_ok_iff (hparse : ∀ s a, parse? s = some a ↔ Spells s a) {a : α} :
    readSetting lookup setting default parse? = .ok a ↔
      Tells Spells default ((lookup setting.name).map trim) a := by
  rw [readSetting_eq]
  generalize (lookup setting.name).map trim = held
  constructor
  · intro h
    split at h
    · cases h
      exact .missing
    · split at h
      · rename_i hblank
        cases h
        rw [hblank]
        exact .blank
      · rename_i hne
        split at h
        · rename_i hsome
          cases h
          exact .value hne ((hparse _ _).mp hsome)
        · contradiction
  · intro h
    cases h with
    | missing => rfl
    | blank => rfl
    | value hne hspells => simp [hne, (hparse _ _).mpr hspells]

theorem readSetting_eq_error_iff (hparse : ∀ s a, parse? s = some a ↔ Spells s a)
    {e : ConfigError} :
    readSetting lookup setting default parse? = .error e ↔
      e.setting = setting ∧ Unusable Spells ((lookup setting.name).map trim) e.value := by
  rw [readSetting_eq]
  constructor
  · intro h
    split at h
    · contradiction
    · rename_i held text htext
      split at h
      · contradiction
      · rename_i hne
        split at h
        · contradiction
        · rename_i hnone
          cases h
          refine ⟨rfl, htext, hne, fun a ha => ?_⟩
          rw [(hparse _ a).mpr ha] at hnone
          contradiction
  · rintro ⟨rfl, htext, hne, hnothing⟩
    have hnone : parse? e.value.toList = none :=
      Option.eq_none_iff_forall_ne_some.mpr fun a ha => hnothing a ((hparse _ a).mp ha)
    simp [htext, hne, hnone]

end Setting

section Lookup

variable {lookup other : String → Option String}

theorem ofLookup_eq : ofLookup lookup =
    (readSetting lookup .host defaultHost Address.parse?).bind fun host =>
      (readSetting lookup .port defaultPort parsePort?).bind fun port => .ok ⟨host, port⟩ := rfl

theorem ofLookup_eq_ok_iff {c : Config} : ofLookup lookup = .ok c ↔
    readSetting lookup .host defaultHost Address.parse? = .ok c.host ∧
      readSetting lookup .port defaultPort parsePort? = .ok c.port := by
  rw [ofLookup_eq]
  obtain ⟨host, port⟩ := c
  cases readSetting lookup .host defaultHost Address.parse? with
  | error e => simp [Except.bind]
  | ok host =>
    cases readSetting lookup .port defaultPort parsePort? with
    | error e => simp [Except.bind]
    | ok port => simp [Except.bind]

theorem ofLookup_eq_error_iff {e : ConfigError} : ofLookup lookup = .error e ↔
    readSetting lookup .host defaultHost Address.parse? = .error e ∨
      (∃ host, readSetting lookup .host defaultHost Address.parse? = .ok host) ∧
        readSetting lookup .port defaultPort parsePort? = .error e := by
  rw [ofLookup_eq]
  cases readSetting lookup .host defaultHost Address.parse? with
  | error e => simp [Except.bind]
  | ok host =>
    cases readSetting lookup .port defaultPort parsePort? with
    | error e => simp [Except.bind]
    | ok port => simp [Except.bind]

/-- Only the trimmed values of the two variables matter. -/
theorem ofLookup_congr (hhost : (other "HOST").map trim = (lookup "HOST").map trim)
    (hport : (other "PORT").map trim = (lookup "PORT").map trim) :
    ofLookup other = ofLookup lookup := by
  simp only [ofLookup_eq, readSetting_eq, Setting.name, hhost, hport]

theorem map_trim_of_padded {held other : Option String} (h : Option.Rel Padded held other) :
    other.map trim = held.map trim := by
  cases h with
  | some h => simp [h.trim_eq]
  | none => rfl

end Lookup

/-- Each variable is read as its trimmed text, an absent or blank one as the default. A text
that is no address is reported whatever the port is; one that is no port is reported only
when there is a host. -/
theorem ofLookup_told (lookup : String → Option String) :
    (∀ c, ofLookup lookup = .ok c ↔
      Tells Address.Spells (.v4 0 0 0 0) ((lookup "HOST").map trim) c.host ∧
        Tells SpellsPort 3000 ((lookup "PORT").map trim) c.port) ∧
    (∀ text, ofLookup lookup = .error ⟨.host, text⟩ ↔
      Unusable Address.Spells ((lookup "HOST").map trim) text) ∧
    (∀ text, ofLookup lookup = .error ⟨.port, text⟩ ↔
      (∃ host, Tells Address.Spells (.v4 0 0 0 0) ((lookup "HOST").map trim) host) ∧
        Unusable SpellsPort ((lookup "PORT").map trim) text) ∧
    (∀ e, ofLookup lookup = .error e →
      (lookup e.setting.name).map trim = some e.value ∧ e.value ≠ "" ∧ trim e.value = e.value) ∧
    (∀ other, other "HOST" = lookup "HOST" → other "PORT" = lookup "PORT" →
      ofLookup other = ofLookup lookup) ∧
    (∀ other, Option.Rel Padded (lookup "HOST") (other "HOST") →
      Option.Rel Padded (lookup "PORT") (other "PORT") → ofLookup other = ofLookup lookup) := by
  have haddress (s : List Char) (a : Address) : Address.parse? s = some a ↔ Address.Spells s a :=
    Address.parse?_eq_some_iff
  have hnumber (s : List Char) (p : UInt16) : parsePort? s = some p ↔ SpellsPort s p :=
    parsePort?_eq_some_iff
  have herror (e : ConfigError) : ofLookup lookup = .error e ↔
      (e.setting = .host ∧ Unusable Address.Spells ((lookup "HOST").map trim) e.value) ∨
      (∃ host, Tells Address.Spells (.v4 0 0 0 0) ((lookup "HOST").map trim) host) ∧
        e.setting = .port ∧ Unusable SpellsPort ((lookup "PORT").map trim) e.value := by
    simp only [ofLookup_eq_error_iff, readSetting_eq_ok_iff haddress,
      readSetting_eq_error_iff haddress, readSetting_eq_error_iff hnumber]
    rfl
  refine ⟨fun c => ?_, fun text => ?_, fun text => ?_, fun e he => ?_, fun other hhost hport => ?_,
    fun other hhost hport => ?_⟩
  · rw [ofLookup_eq_ok_iff, readSetting_eq_ok_iff haddress, readSetting_eq_ok_iff hnumber]
    rfl
  · simp [herror]
  · simp [herror]
  · have hheld : (lookup e.setting.name).map trim = some e.value ∧ e.value ≠ "" := by
      rcases (herror e).mp he with ⟨hsetting, hheld, hne, _⟩ | ⟨_, hsetting, hheld, hne, _⟩
      · exact ⟨hsetting ▸ hheld, hne⟩
      · exact ⟨hsetting ▸ hheld, hne⟩
    obtain ⟨raw, _, htrim⟩ := Option.map_eq_some_iff.mp hheld.1
    exact ⟨hheld.1, hheld.2, by rw [← htrim, Text.trim_idem]⟩
  · exact ofLookup_congr (by rw [hhost]) (by rw [hport])
  · exact ofLookup_congr (map_trim_of_padded hhost) (map_trim_of_padded hport)

/-- The least number that is too large for a port, behind a host that is one. -/
theorem ofLookup_told_large :
    let lookup (name : String) : Option String :=
      if name = "HOST" then some "::1" else some "+065536"
    let padded (name : String) : Option String :=
      if name = "HOST" then some "\t::1 " else some "+065536\n"
    ofLookup lookup = .error ⟨.port, "+065536"⟩ ∧
    Unusable SpellsPort ((lookup "PORT").map trim) "+065536" ∧
    ofLookup padded = .error ⟨.port, "+065536"⟩ := by
  intro lookup padded
  obtain ⟨_, _, hport, _, _, hpadded⟩ := ofLookup_told lookup
  have herror : ofLookup lookup = .error ⟨.port, "+065536"⟩ := by rfl
  have hhost : Padded "::1" "\t::1 " := ⟨['\t'], [' '], by decide, by decide, by decide⟩
  have hnumber : Padded "+065536" "+065536\n" := ⟨[], ['\n'], by decide, by decide, by decide⟩
  exact ⟨herror, ((hport _).mp herror).2,
    (hpadded padded (.some hhost) (.some hnumber)).trans herror⟩

end AccountPortal.Host.Config
