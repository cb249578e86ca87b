import AccountPortal.Session.Guard
import Mathlib.Data.List.Induction

/-!
When the guard lets the visitor go. It looks at a tick only if the state was set since it
looked last. A look that it skips would have changed nothing: either the latch is spent, or
the state is still the one that it saw before and that did not ask to leave. So it departs
at the first tick that finds nobody signed in, and at no other; what was set and replaced
between two ticks never counts.
-/
namespace AccountPortal.Session.Guard

abbrev Watch : Type := Guard → Event → Guard × List Navigation

def after (watch : Watch) (g : Guard) (events : List Event) : Guard :=
  events.foldl (fun g e => (watch g e).1) g

def leads (watch : Watch) : Guard → List Event → List (List Navigation)
  | _, [] => []
  | g, e :: rest => (watch g e).2 :: leads watch (watch g e).1 rest

/-- Looks at every tick, whether or not the state was set. -/
def stepEagerly (g : Guard) (e : Event) : Guard × List Navigation :=
  { g with stale := true }.step e

def latest : State → List Event → State
  | s, [] => s
  | _, .set t :: rest => latest t rest
  | s, .tick :: rest => latest s rest

def found : State → List Event → List State
  | _, [] => []
  | _, .set t :: rest => found t rest
  | s, .tick :: rest => s :: found s rest

/-- It is certain that nobody is signed in. -/
def Nobody (s : State) : Prop := s.loading = false ∧ s.user = none

instance (s : State) : Decidable (Nobody s) :=
  inferInstanceAs (Decidable (s.loading = false ∧ s.user = none))

/-- A tick after these events is the first that finds nobody signed in. -/
def FirstFinding (s : State) (before : List Event) : Prop :=
  Nobody (latest s before) ∧ ∀ t ∈ found s before, ¬ Nobody t

instance (s : State) (before : List Event) : Decidable (FirstFinding s before) :=
  inferInstanceAs (Decidable (_ ∧ _))

section Append

variable (s : State) (before rest : List Event)

theorem latest_append : latest s (before ++ rest) = latest (latest s before) rest := by
  induction before generalizing s with
  | nil => rfl
  | cons e before ih =>
    cases e with
    | set t => exact ih t
    | tick => exact ih s

theorem found_append :
    found s (before ++ rest) = found s before ++ found (latest s before) rest := by
  induction before generalizing s with
  | nil => rfl
  | cons e before ih =>
    cases e with
    | set t => exact ih t
    | tick => exact congrArg (s :: ·) (ih s)

end Append

theorem mustLeave_iff (s : State) : s.mustLeave = true ↔ Nobody s := by
  simp [State.mustLeave, Nobody]

/-- What a tick does: the latch fires once, and only in a look that finds nobody. -/
theorem step_tick (g : Guard) :
    g.step .tick = if g.stale = true ∧ g.latch.spent = false ∧ Nobody g.state
      then (⟨g.state, ⟨true⟩, false⟩, [.to .login])
      else ({ g with stale := false }, []) := by
  obtain ⟨s, ⟨spent⟩, stale⟩ := g
  cases stale with
  | false => simp [step]
  | true =>
    by_cases hnobody : Nobody s
    · have hleave : s.mustLeave = true := (mustLeave_iff s).mpr hnobody
      cases spent <;> simp [step, Latch.fire, hleave, hnobody]
    · have hstay : s.mustLeave = false := by
        simpa using mt (mustLeave_iff s).mp hnobody
      simp [step, Latch.fire, hstay, hnobody]

/-- A guard that has seen the state would do nothing if it looked again. -/
def Settled (g : Guard) : Prop :=
  g.stale = false → g.latch.spent = true ∨ ¬ Nobody g.state

theorem settled_install (s : State) : (install s).Settled :=
  fun h => nomatch h

theorem Settled.step {g : Guard} (h : g.Settled) (e : Event) : (g.step e).1.Settled := by
  cases e with
  | set t => exact fun hstale => nomatch hstale
  | tick =>
    rw [step_tick]
    split
    · exact fun _ => Or.inl rfl
    · rename_i hquiet
      intro _
      by_cases hstale : g.stale = true
      · by_cases hspent : g.latch.spent = true
        · exact Or.inl hspent
        · exact Or.inr fun hnobody => hquiet ⟨hstale, by simpa using hspent, hnobody⟩
      · exact h (by simpa using hstale)

/-- Of a settled guard it does not matter for a tick whether the state was set. -/
theorem Settled.step_tick {g : Guard} (h : g.Settled) :
    g.step .tick = if g.latch.spent = false ∧ Nobody g.state
      then (⟨g.state, ⟨true⟩, false⟩, [.to .login])
      else ({ g with stale := false }, []) := by
  rw [Guard.step_tick]
  by_cases hstale : g.stale = true
  · simp only [hstale, true_and]
  · have hquiet : ¬ (g.latch.spent = false ∧ Nobody g.state) := by
      rintro ⟨hfresh, hnobody⟩
      rcases h (by simpa using hstale) with hspent | hsomebody
      · exact Bool.false_ne_true (hfresh.symm.trans hspent)
      · exact hsomebody hnobody
    rw [if_neg hquiet, if_neg fun hlook => hstale hlook.1]

/-- What a guard knows once it has seen some events. -/
structure Knows (s : State) (before : List Event) (g : Guard) : Prop where
  state : g.state = latest s before
  spent : g.latch.spent = true ↔ ∃ t ∈ found s before, Nobody t
  settled : g.Settled

theorem Knows.step {s : State} {before : List Event} {g : Guard} (h : Knows s before g)
    (e : Event) : Knows s (before ++ [e]) (g.step e).1 := by
  refine ⟨?_, ?_, h.settled.step e⟩
  · rw [latest_append, ← h.state]
    cases e with
    | set t => rfl
    | tick =>
      rw [Guard.step_tick]
      split <;> rfl
  · rw [found_append, ← h.state]
    cases e with
    | set t => simpa [found, Guard.step] using h.spent
    | tick =>
      simp only [found, List.mem_append, List.mem_singleton, or_and_right, exists_or,
        exists_eq_left, ← h.spent]
      rw [h.settled.step_tick]
      by_cases hnobody : Nobody g.state
      · by_cases hspent : g.latch.spent = true
        · simp [hspent, hnobody]
        · simp [hspent, hnobody]
      · simp [hnobody]

theorem knows_after (s : State) (before : List Event) :
    Knows s before (after step (install s) before) := by
  induction before using List.reverseRecOn with
  | nil => exact ⟨rfl, by simp [after, install, Latch.fresh, found], settled_install s⟩
  | append_singleton before e ih =>
    rw [after, List.foldl_append]
    exact ih.step e

/-- An event sends the visitor away exactly if it is the tick that first finds nobody. -/
theorem lead_after (s : State) (before : List Event) (e : Event) :
    ((after step (install s) before).step e).2 =
      if e = .tick ∧ FirstFinding s before then [.to .login] else [] := by
  have hknows := knows_after s before
  cases e with
  | set t => simp [step]
  | tick =>
    rw [hknows.settled.step_tick, hknows.state]
    have hfresh : (after step (install s) before).latch.spent = false ↔
        ∀ t ∈ found s before, ¬ Nobody t := by
      rw [← Bool.not_eq_true, hknows.spent]
      push Not
      rfl
    by_cases hfirst : FirstFinding s before
    · rw [if_pos ⟨hfresh.mpr hfirst.2, hfirst.1⟩, if_pos ⟨rfl, hfirst⟩]
    · rw [if_neg fun h => hfirst ⟨h.2, hfresh.mp h.1⟩, if_neg fun h => hfirst h.2]

/-- Over any events a guard leads away once if a tick finds nobody, unless it has before. -/
theorem flatten_leads {g : Guard} (h : g.Settled) (events : List Event) :
    (leads step g events).flatten =
      if g.latch.spent = false ∧ ∃ t ∈ found g.state events, Nobody t then [.to .login]
      else [] := by
  induction events generalizing g with
  | nil => simp [leads, found]
  | cons e rest ih =>
    rw [leads, List.flatten_cons, ih (h.step e)]
    cases e with
    | set t => exact if_congr Iff.rfl rfl rfl
    | tick =>
      rw [h.step_tick]
      by_cases hfire : g.latch.spent = false ∧ Nobody g.state
      · simp [hfire, found]
      · by_cases hspent : g.latch.spent = false
        · have hsomebody : ¬ Nobody g.state := fun hnobody => hfire ⟨hspent, hnobody⟩
          simp [hspent, hsomebody, found]
        · simp [hspent]

/-- Two guards that differ at most in whether one of them has seen the state. -/
structure Alike (g other : Guard) : Prop where
  state : other.state = g.state
  latch : other.latch = g.latch
  settled : g.Settled

theorem Alike.step {g other : Guard} (h : Alike g other) (e : Event) :
    (other.stepEagerly e).2 = (g.step e).2 ∧ Alike (g.step e).1 (other.stepEagerly e).1 := by
  obtain ⟨s, latch, stale⟩ := other
  obtain rfl : s = g.state := h.state
  obtain rfl : latch = g.latch := h.latch
  cases e with
  | set t => exact ⟨rfl, rfl, rfl, h.settled.step _⟩
  | tick =>
    have hlook : Settled ⟨g.state, g.latch, true⟩ := fun hstale => nomatch hstale
    have hsettled := h.settled.step .tick
    rw [stepEagerly, hlook.step_tick]
    rw [h.settled.step_tick] at hsettled ⊢
    split
    · exact ⟨rfl, rfl, rfl, fun _ => Or.inl rfl⟩
    · rename_i hquiet
      rw [if_neg hquiet] at hsettled
      exact ⟨rfl, rfl, rfl, hsettled⟩

theorem Alike.leads_eq {g other : Guard} (h : Alike g other) (events : List Event) :
    leads Guard.step g events = leads stepEagerly other events := by
  induction events generalizing g other with
  | nil => rfl
  | cons e rest ih =>
    obtain ⟨hlead, hnext⟩ := h.step e
    rw [leads, leads, hlead, ih hnext]

/-- A state that is replaced before the guard looks leaves no trace. -/
theorem after_replaced (g : Guard) (u : State) (between : List State) (t : State) :
    after step g (.set u :: (between.map .set ++ [.set t])) =
      after step g (between.map .set ++ [.set t]) := by
  induction between generalizing g u with
  | nil => rfl
  | cons v between ih =>
    have hskip := ih (g.step (.set u)).1 v
    have hkeep := ih g v
    exact hskip.trans ((ih g u).trans hkeep.symm)

/-- From any state on, and whatever is set and when, the visitor is sent to the login page
at a tick exactly if it is the first that finds nobody signed in. So that happens at most
once; a state that is replaced before the next tick is as good as never set; and a guard
that looked at every tick would do the same. -/
theorem leaves_at_first_finding (s : State) :
    (∀ before e, ((after step (install s) before).step e).2 =
      if e = .tick ∧ FirstFinding s before then [.to .login] else []) ∧
    (∀ events, (leads step (install s) events).flatten.length ≤ 1 ∧
      ∀ navigation ∈ (leads step (install s) events).flatten, navigation.path = "/login") ∧
    (∀ before u (between : List State) t,
      after step (install s) (before ++ .set u :: (between.map .set ++ [.set t])) =
        after step (install s) (before ++ (between.map .set ++ [.set t]))) ∧
    ∀ events, leads step (install s) events = leads stepEagerly (install s) events := by
  refine ⟨lead_after s, ?_, ?_, ?_⟩
  · intro events
    rw [flatten_leads (settled_install s)]
    split
    · simp [Navigation.to, Route.path]
    · simp
  · intro before u between t
    rw [after, after, List.foldl_append, List.foldl_append]
    exact after_replaced (after step (install s) before) u between t
  · exact Alike.leads_eq ⟨rfl, rfl, settled_install s⟩

theorem leaves_at_first_finding_last :
    let before : List Event := [.tick, .set .signedOut, .set .loadingNow, .tick, .set .signedOut]
    FirstFinding .loadingNow before ∧
    ((after step (install .loadingNow) before).step .tick).2 = [⟨"/login", false⟩] ∧
    (⟨"/login", false⟩ : Navigation) ∈
      (leads step (install .loadingNow) (before ++ [.tick])).flatten ∧
    after step (install .loadingNow) [.tick, .set .signedOut, .set .loadingNow] =
      after step (install .loadingNow) [.tick, .set .loadingNow] := by
  intro before
  have hfirst : FirstFinding .loadingNow before := by decide
  obtain ⟨hstep, _, hreplaced, heager⟩ := leaves_at_first_finding .loadingNow
  refine ⟨hfirst, ?_, ?_, hreplaced [.tick] .signedOut [] .loadingNow⟩
  · rw [hstep, if_pos ⟨rfl, hfirst⟩]
    rfl
  · rw [heager]
    decide

example : leads step (install .loadingNow)
      [.tick, .set .signedOut, .set .loadingNow, .tick, .set .signedOut, .tick, .set .signedOut,
        .tick] =
    [[], [], [], [], [], [⟨"/login", false⟩], [], []] := by decide

end AccountPortal.Session.Guard
