import AccountPortal.Form.Flash
import AccountPortal.Proofs.Browser.Round

/-!
A slot for one message in the state of a page. If events leave it alone, and replies
may put a message there but take none away, then after a step it holds the last message
of the replies that the step took in, or what it held before.
-/
namespace AccountPortal.Browser

open Backend Form Http Page

variable {σ ε τ : Type}

/-- The tasks that go on after an action: those that were able to run, and the one whose
reply it brings. -/
def World.heard (w : World σ τ) : Action ε → List (Ready τ)
  | .reply fetched _ =>
    w.ready ++ (w.waiting.head?.map fun task => .resume task fetched.outcome).toList
  | _ => w.ready

/-- The message that a task leaves as it goes on, if it leaves one. -/
def Ready.told (news : τ → Outcome → Option String) : Ready τ → Option String
  | .start _ => none
  | .resume task outcome => news task outcome

/-- A page changes its slot in no other way than by the messages of replies. -/
structure Posts (p : Program σ ε τ) (slot : σ → Flash) (news : τ → Outcome → Option String) :
    Prop where
  handle : ∀ s e, slot (p.handle s e).state = slot s
  settle : ∀ s, slot (p.settle s).state = slot s
  conclude : ∀ task outcome jar s, (slot (((p.task task).conclude outcome jar).1 s).state).message =
    (news task outcome).or (slot s).message

/-- A message is followed by later ones if there are any. -/
theorem getLast?_cons_or (message : String) (later : List String) (before : Option String) :
    (message :: later).getLast?.or before = later.getLast?.or (some message) := by
  rw [List.getLast?_cons]
  cases later.getLast? <;> rfl

section Posts

variable {p : Program σ ε τ} {slot : σ → Flash} {news : τ → Outcome → Option String}
  (h : Posts p slot news) (base : Base)

include h

theorem runTask_message (w : World σ τ) (task : Ready τ) :
    (slot (w.runTask p base task).1.page).message = (task.told news).or (slot w.page).message := by
  cases task with
  | start task => rfl
  | resume task outcome => exact h.conclude task outcome w.jar w.page

theorem runTasks_message (w : World σ τ) (tasks : List (Ready τ)) :
    (slot (w.runTasks p base tasks).1.page).message =
      (tasks.filterMap (Ready.told news)).getLast?.or (slot w.page).message := by
  induction tasks generalizing w with
  | nil => rfl
  | cons task rest ih =>
    rw [World.runTasks, ih, runTask_message h]
    cases htold : task.told news with
    | none => rw [List.filterMap_cons_none htold, Option.none_or]
    | some message =>
      rw [List.filterMap_cons_some htold, getLast?_cons_or, Option.some_or]

theorem drain_message (w : World σ τ) :
    (slot (w.drain p base).1.page).message =
      (w.ready.filterMap (Ready.told news)).getLast?.or (slot w.page).message := by
  rw [World.drain]
  simp only [World.absorb, h.settle, runTasks_message h]

theorem act_message (w : World σ τ) (action : Action ε) :
    slot (w.act p action).1.page = slot w.page ∧
    (w.act p action).1.ready.filterMap (Ready.told news) =
      (w.heard action).filterMap (Ready.told news) := by
  cases action with
  | event e =>
    have hstart (tasks : List τ) : (tasks.map Ready.start).filterMap (Ready.told news) = [] := by
      simp [Ready.told]
    refine ⟨h.handle w.page e, ?_⟩
    simp only [World.act, World.event, World.absorb, World.heard, List.filterMap_append, hstart,
      List.append_nil]
  | reply fetched cookies =>
    cases hw : w.waiting with
    | nil => simp [World.act, World.reply, World.setCookies, World.heard, hw]
    | cons task rest => simp [World.act, World.reply, World.setCookies, World.heard, hw]
  | setCookies jar => exact ⟨rfl, rfl⟩
  | missed => exact ⟨rfl, rfl⟩

/-- While the browser is held no reply is taken in. -/
theorem step_message (w : World σ τ) (action : Action ε) (hold : Bool) :
    (slot (w.step p base action hold).1.page).message =
      (if hold then [] else (w.heard action).filterMap (Ready.told news)).getLast?.or
        (slot w.page).message := by
  obtain ⟨hpage, hready⟩ := act_message h w action
  cases hold with
  | true =>
    simp only [World.step, if_true, hpage]
    rfl
  | false =>
    simp only [World.step, Bool.false_eq_true, if_false]
    rw [drain_message h base, hpage, hready]

end Posts

end AccountPortal.Browser
