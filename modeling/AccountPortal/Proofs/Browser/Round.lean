import AccountPortal.Browser.Run

/-!
Rounds of a page in a browser that is never held: an action, and then the tasks
that it has made able to run. For a page that watches nothing in its own state a
round that finds no task able to run is one reaction of the page, and it sends
the requests of the tasks which that reaction starts.
-/
namespace AccountPortal.Browser

open Backend Cookie Http Page

namespace Trace

theorem append_empty (t : Trace) : t.append .empty = t := by
  simp [append, empty]

theorem empty_append (t : Trace) : Trace.empty.append t = t := by
  simp [append, empty]

theorem append_assoc (a b c : Trace) : (a.append b).append c = a.append (b.append c) := by
  simp only [append, List.append_assoc, Nat.add_assoc]

end Trace

/-- The store after an action. -/
def Action.jarAfter {ε : Type} (jar : Jar) : Action ε → Jar
  | .event _ => jar
  | .reply _ cookies => cookies.or jar
  | .setCookies jar => jar
  | .missed => jar

namespace World

variable {σ ε τ : Type} (p : Program σ ε τ) (base : Base)

/-- Rounds one after another. -/
def play : World σ τ → List (Action ε) → World σ τ × Trace
  | w, [] => (w, .empty)
  | w, action :: rest =>
    let (next, seen, _) := w.step p base action false
    let (last, more) := play next rest
    (last, seen.append more)

/-- A page from its mounting on. -/
def visit (jar : Jar) (r : Reaction σ τ) (actions : List (Action ε)) : World σ τ × Trace :=
  let (w, seen) := mount p base jar r
  let (last, more) := w.play p base actions
  (last, seen.append more)

theorem runTasks_start (w : World σ τ) (tasks : List τ) :
    w.runTasks p base (tasks.map .start) =
      ({ w with waiting := w.waiting ++ tasks },
        ⟨tasks.map fun t => (p.task t).request base w.jar, [], 0,
          tasks.map fun t => (p.task t).announcement base⟩) := by
  induction tasks generalizing w with
  | nil => simp [runTasks, Trace.empty]
  | cons task rest ih =>
    simp only [List.map_cons, runTasks, runTask, ih, Trace.append, List.append_assoc,
      List.singleton_append, List.append_nil, Nat.add_zero]

section Calm

variable (hp : ∀ s, p.settle s = .quiet s) (page : σ) (jar : Jar) (waiting : List τ)

include hp

/-- Draining a page that watches nothing runs the tasks and does no more. -/
theorem drain_eq (w : World σ τ) :
    w.drain p base = { w with ready := [] }.runTasks p base w.ready := by
  simp [drain, hp, absorb, Reaction.quiet, Trace.append]

theorem step_event (w : World σ τ) (hw : w.ready = []) {e : ε} {r : Reaction σ τ}
    (hr : p.handle w.page e = r) :
    w.step p base (.event e) false =
      ({ w with page := r.state, waiting := w.waiting ++ r.started },
        ⟨r.started.map fun t => (p.task t).request base w.jar, r.navigated, r.prevented,
          r.log ++ r.started.map fun t => (p.task t).announcement base⟩, none) := by
  obtain ⟨page, jar, ready, waiting⟩ := w
  cases hw
  simp [step, act, event, hr, absorb, drain_eq p base hp, runTasks_start, Trace.append]

/-- A reply that nobody waits for brings its cookies and nothing else. -/
theorem step_reply_nil (fetched : Fetched) (cookies : Option String) :
    step p base ⟨page, jar, [], []⟩ (.reply fetched cookies) false =
      (⟨page, cookies.or jar, [], []⟩, .empty, some false) := by
  simp [step, act, reply, setCookies, drain_eq p base hp, runTasks, Trace.append_empty]

theorem step_reply_cons (task : τ) (fetched : Fetched) (cookies : Option String) :
    let c := (p.task task).conclude fetched.outcome (cookies.or jar)
    let r := c.1 page
    step p base ⟨page, jar, [], task :: waiting⟩ (.reply fetched cookies) false =
      (⟨r.state, cookies.or jar, r.started.map .start, waiting⟩,
        ⟨[], r.navigated, r.prevented, c.2 ++ r.log⟩, some true) := by
  simp [step, act, reply, setCookies, drain_eq p base hp, runTasks, runTask, absorb,
    Trace.append_empty, Trace.empty_append]

theorem step_setCookies (other : Jar) :
    step p base ⟨page, jar, [], waiting⟩ (.setCookies other) false =
      (⟨page, other, [], waiting⟩, .empty, none) := by
  simp [step, act, setCookies, drain_eq p base hp, runTasks, Trace.append_empty]

theorem step_missed :
    step p base ⟨page, jar, [], waiting⟩ .missed false =
      (⟨page, jar, [], waiting⟩, .empty, none) := by
  simp [step, act, drain_eq p base hp, runTasks, Trace.append_empty]

end Calm

end World

end AccountPortal.Browser
