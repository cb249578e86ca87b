import AccountPortal.Backend.Fetch
import AccountPortal.Page.Program

/-!
A page in a browser. Tasks run between events, each until it waits for the
network; then its request is under way until a reply to it arrives. Replies go
to the request that has waited longest. Nothing runs while the browser is held,
so that events may come before the tasks of earlier ones.
-/

namespace AccountPortal.Browser

open Backend Cookie Http Page

/-- A task that is able to run: it has yet to send its request, or it has the outcome. -/
inductive Ready (τ : Type) where
  | start (task : τ)
  | resume (task : τ) (outcome : Outcome)

structure World (σ τ : Type) where
  page : σ
  jar : Jar
  ready : List (Ready τ)
  waiting : List τ

structure Trace where
  sent : List Request
  navigated : List Navigation
  prevented : Nat
  log : List LogLine
  deriving DecidableEq, Repr

namespace Trace

def empty : Trace := ⟨[], [], 0, []⟩

def append (a b : Trace) : Trace :=
  ⟨a.sent ++ b.sent, a.navigated ++ b.navigated, a.prevented + b.prevented, a.log ++ b.log⟩

end Trace

namespace World

variable {σ ε τ : Type}

def absorb (w : World σ τ) (r : Reaction σ τ) : World σ τ × Trace :=
  ({ w with page := r.state, ready := w.ready ++ r.started.map .start },
    ⟨[], r.navigated, r.prevented, r.log⟩)

/-- Runs one task until it waits or ends. The request is built here, on the
cookies of this moment. -/
def runTask (p : Program σ ε τ) (base : Base) (w : World σ τ) : Ready τ → World σ τ × Trace
  | .start task =>
    let x := p.task task
    ({ w with waiting := w.waiting ++ [task] },
      ⟨[x.request base w.jar], [], 0, [x.announcement base]⟩)
  | .resume task outcome =>
    let (react, log) := (p.task task).conclude outcome w.jar
    let (w, seen) := w.absorb (react w.page)
    (w, { seen with log := log ++ seen.log })

def runTasks (p : Program σ ε τ) (base : Base) : World σ τ → List (Ready τ) → World σ τ × Trace
  | w, [] => (w, .empty)
  | w, task :: rest =>
    let (w, first) := w.runTask p base task
    let (w, others) := runTasks p base w rest
    (w, first.append others)

/-- Runs all tasks that are able to run, and then lets the page settle. -/
def drain (p : Program σ ε τ) (base : Base) (w : World σ τ) : World σ τ × Trace :=
  let (w, seen) := { w with ready := [] }.runTasks p base w.ready
  let (w, more) := w.absorb (p.settle w.page)
  (w, seen.append more)

def event (p : Program σ ε τ) (w : World σ τ) (e : ε) : World σ τ × Trace :=
  w.absorb (p.handle w.page e)

/-- A reply arrives for the request that has waited longest. Yields whether
there was one. -/
def reply (w : World σ τ) (outcome : Outcome) : World σ τ × Bool :=
  match w.waiting with
  | [] => (w, false)
  | task :: rest => ({ w with waiting := rest, ready := w.ready ++ [.resume task outcome] }, true)

def setCookies (w : World σ τ) (jar : Jar) : World σ τ := { w with jar := jar }

end World

inductive Action (ε : Type) where
  | event (e : ε)
  | reply (fetched : Fetched) (setCookies : Option String)
  | setCookies (jar : Jar)
  /-- An event that finds nothing to act on. -/
  | missed

namespace World

variable {σ ε τ : Type}

def act (p : Program σ ε τ) (w : World σ τ) : Action ε → World σ τ × Trace × Option Bool
  | .event e =>
    let (w, seen) := w.event p e
    (w, seen, none)
  | .reply fetched cookies =>
    let (w, answered) := (w.setCookies (cookies.or w.jar)).reply fetched.outcome
    (w, .empty, some answered)
  | .setCookies jar => (w.setCookies jar, .empty, none)
  | .missed => (w, .empty, none)

/-- One step: an action, and then the tasks unless the browser is held. -/
def step (p : Program σ ε τ) (base : Base) (w : World σ τ) (action : Action ε) (hold : Bool) :
    World σ τ × Trace × Option Bool :=
  let (w, seen, answered) := w.act p action
  if hold then (w, seen, answered)
  else
    let (w, more) := w.drain p base
    (w, seen.append more, answered)

def mount (p : Program σ ε τ) (base : Base) (jar : Jar) (r : Reaction σ τ) : World σ τ × Trace :=
  let (w, seen) := (⟨r.state, jar, [], []⟩ : World σ τ).absorb r
  let (w, more) := w.drain p base
  (w, seen.append more)

end World

/-- A page together with the one exchange that provokes the token cookie. The
task `none` is that exchange; it concerns no page. -/
def withBootstrap {σ ε τ : Type} (p : Program σ ε τ) : Program σ ε (Option τ) where
  handle s e := lift (p.handle s e)
  task
    | none => bootstrap.map fun _ s => .quiet s
    | some task => (p.task task).map fun react s => lift (react s)
  settle s := lift (p.settle s)
where
  lift (r : Reaction σ τ) : Reaction σ (Option τ) := { r with started := r.started.map some }

/-- A reaction that also starts the bootstrap, before any task of its own. -/
def bootstrapping {σ τ : Type} (r : Reaction σ τ) : Reaction σ (Option τ) :=
  { r with started := none :: r.started.map some }

def still : Program Unit Empty Empty where
  handle s _ := .quiet s
  task e := nomatch e

end AccountPortal.Browser
