import AccountPortal.Proofs.Page.Attempt
import Mathlib.Data.List.Forall2

/-!
Programs that follow the story of their form. Each reaction is checked once, on
a page that shows an arbitrary story; what holds of whole runs is then the same
for every such program.
-/
namespace AccountPortal.Page

open Attempt Backend Browser Cookie Form Http

variable {φ F σ ε τ : Type}

/-- The page that shows a story reacts as the story goes on: `read` says what an
event is to the form, and a success leads to `goal`. -/
structure Follows (desk : Desk φ F τ) (p : Program σ ε τ) (read : ε → Gesture φ)
    (page : Story F τ → σ) (goal : Route) : Prop where
  settle : ∀ s, p.settle s = .quiet s
  reacts : ∀ story e, ∃ prevented log, p.handle (page story) e =
    ⟨page (desk.hear story (read e)), prevented, log, [], desk.begins story (read e)⟩
  concludes : ∀ form tried t past outcome jar,
    ((p.task t).conclude outcome jar).1 (page ⟨form, tried, .pending t :: past⟩) =
      ⟨page ⟨form, tried, .answered t outcome :: past⟩, 0, [],
        List.replicate (succeeded outcome).toNat (.to goal), []⟩

/-- The world in which a page shows a story: what it awaits is under way. -/
def worldOf (page : Story F τ → σ) (story : Story F τ) (jar : Jar) : World σ τ :=
  ⟨page story, jar, [], awaited story.attempts⟩

namespace Follows

variable {desk : Desk φ F τ} {p : Program σ ε τ} {read : ε → Gesture φ}
variable {page : Story F τ → σ} {goal : Route}

theorem awaited_hear (story : Story F τ) (g : Gesture φ) :
    awaited (desk.hear story g).attempts =
      awaited story.attempts ++ desk.begins story g := by
  cases g with
  | edit field value => simp [Desk.hear, Desk.begins]
  | provider p => simp [Desk.hear, Desk.begins]
  | submit =>
    simp only [Desk.hear, Desk.begins, Desk.submit]
    cases hw : awaited story.attempts with
    | cons t rest => simp [hw]
    | nil =>
      cases hc : desk.check story.form with
      | ok t => simp [awaited]
      | error message => simp [awaited]

/-- One round of the page takes its world to that of the story gone on, sends
what the story begins, and leads to the goal upon success. -/
theorem step (h : Follows desk p read page goal) (base : Base) (story : Story F τ) (jar : Jar)
    (action : Action ε) :
    let s := World.step p base (worldOf page story jar) action false
    s.1 = worldOf page (desk.note read story action) (action.jarAfter jar) ∧
    s.2.1.sent = (desk.starts read story action).map (fun t => (p.task t).request base jar) ∧
    s.2.1.navigated = List.replicate (story.gains action) (.to goal) := by
  cases action with
  | event e =>
    obtain ⟨prevented, log, hr⟩ := h.reacts story e
    rw [World.step_event p base h.settle _ rfl hr]
    simp only [worldOf, Desk.note, Desk.starts, Action.jarAfter, awaited_hear,
      Story.gains, List.replicate_zero, and_self]
  | reply fetched cookies =>
    obtain ⟨form, tried, attempts⟩ := story
    rcases awaited_cases attempts with hnone | ⟨t, past, rfl⟩
    · simp [worldOf, hnone, World.step_reply_nil p base h.settle, Desk.note,
        Story.answer_of_none form tried hnone, Desk.starts, Action.jarAfter, Story.gains,
        Trace.empty]
    · simp only [worldOf, awaited, World.step_reply_cons p base h.settle, h.concludes, Desk.note,
        Story.answer, Desk.starts, Action.jarAfter, Story.gains, List.map_nil,
        List.length_singleton, Nat.one_mul, and_self]
  | setCookies other =>
    simp [worldOf, World.step_setCookies p base h.settle, Desk.note, Desk.starts,
      Action.jarAfter, Story.gains, Trace.empty]
  | missed =>
    simp [worldOf, World.step_missed p base h.settle, Desk.note, Desk.starts,
      Action.jarAfter, Story.gains, Trace.empty]

/-- A run takes the world of a story to the world of the story gone on. -/
theorem play_world (h : Follows desk p read page goal) (base : Base) (story : Story F τ)
    (jar : Jar) (actions : List (Action ε)) :
    (World.play p base (worldOf page story jar) actions).1 =
      worldOf page (actions.foldl (desk.note read) story)
        (actions.foldl Action.jarAfter jar) := by
  induction actions generalizing story jar with
  | nil => rfl
  | cons action rest ih =>
    simp only [World.play, List.foldl_cons, (h.step base story jar action).1, ih]

/-- What a run sends belongs, one by one, to what the story has sent, if the request
of a task belongs to the task whatever the cookies are. -/
theorem play_sent {R : Request → τ → Prop} (h : Follows desk p read page goal) (base : Base)
    (hR : ∀ t jar, R ((p.task t).request base jar) t) (story : Story F τ) (jar : Jar)
    {earlier : List Request} (hearlier : List.Forall₂ R earlier (dispatched story.attempts))
    (actions : List (Action ε)) :
    List.Forall₂ R (earlier ++ (World.play p base (worldOf page story jar) actions).2.sent)
      (dispatched (actions.foldl (desk.note read) story).attempts) := by
  induction actions generalizing story jar earlier with
  | nil => simpa [World.play, Trace.empty] using hearlier
  | cons action rest ih =>
    obtain ⟨hworld, hsent, -⟩ := h.step base story jar action
    have hround : List.Forall₂ R
        ((desk.starts read story action).map fun t => (p.task t).request base jar)
        (desk.starts read story action) :=
      List.forall₂_map_left_iff.mpr (List.forall₂_same.mpr fun t _ => hR t jar)
    have hboth : List.Forall₂ R
        (earlier ++ (desk.starts read story action).map fun t => (p.task t).request base jar)
        (dispatched (desk.note read story action).attempts) := by
      rw [dispatched_note]
      exact List.rel_append hearlier hround
    simp only [World.play, Trace.append, List.foldl_cons, hsent, hworld]
    rw [← List.append_assoc]
    exact ih _ _ hboth

/-- A run leads to the goal once for every success. -/
theorem play_navigated (h : Follows desk p read page goal) (base : Base) (story : Story F τ)
    (jar : Jar) (actions : List (Action ε)) :
    List.replicate (successes story.attempts) (.to goal) ++
        (World.play p base (worldOf page story jar) actions).2.navigated =
      List.replicate (successes (actions.foldl (desk.note read) story).attempts) (.to goal) := by
  induction actions generalizing story jar with
  | nil => simp [World.play, Trace.empty]
  | cons action rest ih =>
    obtain ⟨hworld, -, hnavigated⟩ := h.step base story jar action
    simp only [World.play, Trace.append, List.foldl_cons, hworld, hnavigated]
    rw [← ih, successes_note, ← List.replicate_append_replicate, List.append_assoc]

section Visit

variable (h : Follows desk p read page goal) (base : Base) (jar : Jar) (form : F)
variable (actions : List (Action ε))

include h

theorem mount_world :
    World.mount p base jar (.quiet (page (.start form))) =
      (worldOf page (.start form) jar, .empty) := by
  simp [World.mount, World.absorb, World.drain_eq p base h.settle, Reaction.quiet,
    World.runTasks, worldOf, Story.start, awaited, Trace.append, Trace.empty]

theorem visit_world :
    (World.visit p base jar (.quiet (page (.start form))) actions).1 =
      worldOf page (actions.foldl (desk.note read) (.start form))
        (actions.foldl Action.jarAfter jar) := by
  simp only [World.visit, h.mount_world]
  exact h.play_world base (.start form) jar actions

theorem visit_sent {R : Request → τ → Prop} (hR : ∀ t jar, R ((p.task t).request base jar) t) :
    List.Forall₂ R (World.visit p base jar (.quiet (page (.start form))) actions).2.sent
      (dispatched (actions.foldl (desk.note read) (.start form)).attempts) := by
  simp only [World.visit, h.mount_world, Trace.empty_append]
  exact h.play_sent base hR (.start form) jar .nil actions

theorem visit_navigated :
    (World.visit p base jar (.quiet (page (.start form))) actions).2.navigated =
      List.replicate (successes (actions.foldl (desk.note read) (.start form)).attempts)
        (.to goal) := by
  simp only [World.visit, h.mount_world, Trace.empty_append]
  exact h.play_navigated base (.start form) jar actions

end Visit

end Follows

end AccountPortal.Page
