import AccountPortal.Proofs.Browser.Round
import Mathlib.Data.List.ReduceOption

/-!
Replies in any order. A reply may be for any request that is under way, not only for the
one that has waited longest. What happens comes in bursts: no task runs within a burst,
and after it they all run until they wait or end. A browser that is never held has bursts
of one thing each.
-/
namespace AccountPortal.Browser

open Backend Cookie Http Page

/-- The `k`-th element of a kind, and the list without it. -/
def pick? {α : Type} (kind : α → Bool) : Nat → List α → Option (α × List α)
  | _, [] => none
  | 0, a :: rest =>
    if kind a then some (a, rest) else (pick? kind 0 rest).map fun (b, left) => (b, a :: left)
  | k + 1, a :: rest =>
    (pick? kind (if kind a then k else k + 1) rest).map fun (b, left) => (b, a :: left)

/-- What happens to a page. A reply is for the `k`-th of its requests under way. -/
inductive Input (ε : Type) where
  | event (e : ε)
  | reply (k : Nat) (fetched : Fetched) (cookies : Option String)
  | setCookies (jar : Jar)

/-- What happens to the whole site in a browser. -/
inductive SiteInput (ε : Type) where
  | page (input : Input ε)
  /-- The reply to the bootstrap. -/
  | bootstrap (fetched : Fetched) (cookies : Option String)

def SiteInput.page? {ε : Type} : SiteInput ε → Option (Input ε)
  | .page input => some input
  | .bootstrap _ _ => none

def ownPart {ε : Type} (burst : List (SiteInput ε)) : List (Input ε) :=
  burst.filterMap SiteInput.page?

/-- A look at the page right after something happened, and whether a reply was awaited. -/
structure Glance (σ : Type) where
  page : σ
  answered : Option Bool

namespace World

variable {σ ε τ : Type}

/-- A reply arrives for the `k`-th request under way of a kind. Yields whether there was
such a request; the cookies of the reply count in any case. -/
def deliver (kind : τ → Bool) (k : Nat) (fetched : Fetched) (cookies : Option String)
    (w : World σ τ) : World σ τ × Bool :=
  let w := w.setCookies (cookies.or w.jar)
  match pick? kind k w.waiting with
  | none => (w, false)
  | some (task, left) =>
    ({ w with waiting := left, ready := w.ready ++ [.resume task fetched.outcome] }, true)

/-- The input itself, before any task runs. Replies are for requests of a kind. -/
def take (p : Program σ ε τ) (kind : τ → Bool) (w : World σ τ) :
    Input ε → World σ τ × Trace × Option Bool
  | .event e => ((w.event p e).1, (w.event p e).2, none)
  | .reply k fetched cookies =>
    ((w.deliver kind k fetched cookies).1, .empty, some (w.deliver kind k fetched cookies).2)
  | .setCookies jar => (w.setCookies jar, .empty, none)

def takeAll (p : Program σ ε τ) (kind : τ → Bool) :
    World σ τ → List (Input ε) → World σ τ × Trace × List (Glance σ)
  | w, [] => (w, .empty, [])
  | w, input :: rest =>
    let (next, seen, answered) := w.take p kind input
    let (last, more, glances) := takeAll p kind next rest
    (last, seen.append more, ⟨next.page, answered⟩ :: glances)

def round (p : Program σ ε τ) (base : Base) (w : World σ τ) (burst : List (Input ε)) :
    World σ τ × Trace × List (Glance σ) :=
  let (w, seen, glances) := w.takeAll p (fun _ => true) burst
  let (w, more) := w.drain p base
  (w, seen.append more, glances)

/-- A burst on the site. It is looked at after what happens to the page. -/
def takeSite (p : Program σ ε τ) :
    World σ (Option τ) → List (SiteInput ε) → World σ (Option τ) × Trace × List (Glance σ)
  | w, [] => (w, .empty, [])
  | w, .page input :: rest =>
    let (next, seen, answered) := w.take (withBootstrap p) Option.isSome input
    let (last, more, glances) := takeSite p next rest
    (last, seen.append more, ⟨next.page, answered⟩ :: glances)
  | w, .bootstrap fetched cookies :: rest =>
    takeSite p (w.deliver Option.isNone 0 fetched cookies).1 rest

/-- A burst on the site, and then the tasks of the page and of the bootstrap. -/
def siteRound (p : Program σ ε τ) (base : Base) (w : World σ (Option τ))
    (burst : List (SiteInput ε)) : World σ (Option τ) × Trace × List (Glance σ) :=
  let (w, seen, glances) := w.takeSite p burst
  let (w, more) := w.drain (withBootstrap p) base
  (w, seen.append more, glances)

end World

structure Account (σ : Type) where
  /-- The page before the round. -/
  found : σ
  glances : List (Glance σ)
  page : σ
  trace : Trace
  /-- The store that the requests of the round were built on. -/
  jar : Jar

def rounds {σ ε τ : Type} (p : Program σ ε τ) (base : Base) :
    World σ τ → List (List (Input ε)) → List (Account σ)
  | _, [] => []
  | w, burst :: rest =>
    let (next, seen, glances) := w.round p base burst
    ⟨w.page, glances, next.page, seen, next.jar⟩ :: rounds p base next rest

def siteRounds {σ ε τ : Type} (p : Program σ ε τ) (base : Base) :
    World σ (Option τ) → List (List (SiteInput ε)) → List (List (SiteInput ε) × Account σ)
  | _, [] => []
  | w, burst :: rest =>
    let (next, seen, glances) := w.siteRound p base burst
    (burst, ⟨w.page, glances, next.page, seen, next.jar⟩) :: siteRounds p base next rest

/-- An action as an input, its reply being for the request that has waited longest. -/
def Action.input? {ε : Type} : Action ε → Option (Input ε)
  | .event e => some (.event e)
  | .reply fetched cookies => some (.reply 0 fetched cookies)
  | .setCookies jar => some (.setCookies jar)
  | .missed => none

section Sending

variable {σ ε τ : Type} (p : Program σ ε τ) (base : Base) (w : World σ τ) {action : Action ε}
  {input : Input ε}

theorem take_of_action (h : action.input? = some input) :
    w.take p (fun _ => true) input = w.act p action := by
  cases action with
  | event e => cases h; rfl
  | reply fetched cookies =>
    cases h
    obtain ⟨page, jar, ready, waiting⟩ := w
    cases waiting <;> rfl
  | setCookies jar => cases h; rfl
  | missed => cases h

/-- A step that is not held is a burst of its own, and one that is held begins a burst. -/
theorem round_of_action (h : action.input? = some input) (rest : List (Input ε)) :
    (w.round p base [input]).1 = (w.step p base action false).1 ∧
    (w.round p base [input]).2.1 = (w.step p base action false).2.1 ∧
    (w.round p base (input :: rest)).1 =
      ((w.step p base action true).1.round p base rest).1 := by
  have htake := take_of_action p w h
  refine ⟨?_, ?_, ?_⟩
  · simp [World.round, World.takeAll, World.step, htake]
  · simp [World.round, World.takeAll, World.step, htake, Trace.append_empty]
  · simp [World.round, World.takeAll, World.step, htake]

end Sending

end AccountPortal.Browser
