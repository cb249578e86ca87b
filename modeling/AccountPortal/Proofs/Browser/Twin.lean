import AccountPortal.Browser.Run
import Mathlib.Data.List.Forall2

/-!
Two runs of one page side by side. The pages, the events and the tasks of one run are
related to those of the other, and the program keeps the relations: from related pages
related events lead to related pages, and related tasks conclude alike. Then whoever
watches the two pages, but not the bodies of the requests, cannot tell them apart, in
whatever order events and replies come and whether or not the browser is held.
-/
namespace AccountPortal.Browser

open Backend Cookie Http Page

/-- What is seen of a run but for the bodies of the requests. -/
def Trace.veiled (t : Trace) : Trace :=
  { t with sent := t.sent.map fun r => { r with body := none } }

theorem Trace.veiled_append (a b : Trace) : (a.append b).veiled = a.veiled.append b.veiled := by
  simp [veiled, append]

section Relations

variable {σ ε τ : Type} (page : σ → σ → Prop) (event : ε → ε → Prop) (task : τ → τ → Prop)

/-- Reactions that look the same, with related pages and tasks behind them. -/
structure ReactionTwin (a b : Reaction σ τ) : Prop where
  state : page a.state b.state
  prevented : a.prevented = b.prevented
  log : a.log = b.log
  navigated : a.navigated = b.navigated
  started : List.Forall₂ task a.started b.started

/-- The program keeps the relations, and no request but for its body tells related
tasks apart. -/
structure Keeps (p : Program σ ε τ) : Prop where
  handle : ∀ {s t e f}, page s t → event e f → ReactionTwin page task (p.handle s e) (p.handle t f)
  settle : ∀ {s t}, page s t → ReactionTwin page task (p.settle s) (p.settle t)
  asks : ∀ {a b}, task a b →
    (p.task a).method = (p.task b).method ∧ (p.task a).path = (p.task b).path
  concludes : ∀ {a b} outcome jar {s t}, task a b → page s t →
    ((p.task a).conclude outcome jar).2 = ((p.task b).conclude outcome jar).2 ∧
    ReactionTwin page task (((p.task a).conclude outcome jar).1 s)
      (((p.task b).conclude outcome jar).1 t)

inductive ReadyTwin : Ready τ → Ready τ → Prop
  | start {a b : τ} (h : task a b) : ReadyTwin (.start a) (.start b)
  | resume {a b : τ} (h : task a b) (outcome : Outcome) :
    ReadyTwin (.resume a outcome) (.resume b outcome)

inductive ActionTwin : Action ε → Action ε → Prop
  | event {e f : ε} (h : event e f) : ActionTwin (.event e) (.event f)
  | reply (fetched : Fetched) (cookies : Option String) :
    ActionTwin (.reply fetched cookies) (.reply fetched cookies)
  | setCookies (jar : Jar) : ActionTwin (.setCookies jar) (.setCookies jar)
  | missed : ActionTwin .missed .missed

structure WorldTwin (w v : World σ τ) : Prop where
  page : page w.page v.page
  jar : w.jar = v.jar
  ready : List.Forall₂ (ReadyTwin task) w.ready v.ready
  waiting : List.Forall₂ task w.waiting v.waiting

end Relations

section Step

variable {σ ε τ : Type} {page : σ → σ → Prop} {event : ε → ε → Prop} {task : τ → τ → Prop}
variable {p : Program σ ε τ} {w v : World σ τ} (base : Base)

theorem ReactionTwin.quiet {s t : σ} (h : page s t) :
    ReactionTwin page task (.quiet s) (.quiet t) :=
  ⟨h, rfl, rfl, rfl, .nil⟩

theorem forall₂_start {as bs : List τ} (h : List.Forall₂ task as bs) :
    List.Forall₂ (ReadyTwin task) (as.map .start) (bs.map .start) := by
  induction h with
  | nil => exact .nil
  | cons hab _ ih => exact .cons (.start hab) ih

theorem absorb_twin {a b : Reaction σ τ} (hw : WorldTwin page task w v)
    (hr : ReactionTwin page task a b) :
    WorldTwin page task (w.absorb a).1 (v.absorb b).1 ∧ (w.absorb a).2 = (v.absorb b).2 := by
  constructor
  · exact {
      page := hr.state
      jar := hw.jar
      ready := List.rel_append hw.ready (forall₂_start hr.started)
      waiting := hw.waiting }
  · simp only [World.absorb, hr.navigated, hr.prevented, hr.log]

theorem runTask_twin (h : Keeps page event task p) {a b : Ready τ}
    (hw : WorldTwin page task w v) (hab : ReadyTwin task a b) :
    WorldTwin page task (w.runTask p base a).1 (v.runTask p base b).1 ∧
    (w.runTask p base a).2.veiled = (v.runTask p base b).2.veiled := by
  cases hab with
  | start hab =>
    obtain ⟨hmethod, hpath⟩ := h.asks hab
    constructor
    · exact {
        page := hw.page
        jar := hw.jar
        ready := hw.ready
        waiting := List.rel_append hw.waiting (.cons hab .nil) }
    · simp [World.runTask, Trace.veiled, Exchange.request, Exchange.announcement, buildRequest,
        hmethod, hpath, hw.jar]
  | resume hab outcome =>
    obtain ⟨hlog, hreact⟩ := h.concludes outcome w.jar hab hw.page
    obtain ⟨hworld, htrace⟩ := absorb_twin hw hreact
    simp only [World.runTask, ← hw.jar, hlog, htrace, and_true]
    exact hworld

theorem runTasks_twin (h : Keeps page event task p) {as bs : List (Ready τ)}
    (hw : WorldTwin page task w v) (hab : List.Forall₂ (ReadyTwin task) as bs) :
    WorldTwin page task (w.runTasks p base as).1 (v.runTasks p base bs).1 ∧
    (w.runTasks p base as).2.veiled = (v.runTasks p base bs).2.veiled := by
  induction hab generalizing w v with
  | nil => exact ⟨hw, rfl⟩
  | cons hab _ ih =>
    obtain ⟨hworld, htrace⟩ := runTask_twin base h hw hab
    obtain ⟨hlast, hmore⟩ := ih hworld
    exact ⟨hlast, by simp only [World.runTasks, Trace.veiled_append, htrace, hmore]⟩

theorem drain_twin (h : Keeps page event task p) (hw : WorldTwin page task w v) :
    WorldTwin page task (w.drain p base).1 (v.drain p base).1 ∧
    (w.drain p base).2.veiled = (v.drain p base).2.veiled := by
  have hidle : WorldTwin page task { w with ready := [] } { v with ready := [] } :=
    { hw with ready := .nil }
  obtain ⟨hworld, htrace⟩ := runTasks_twin base h hidle hw.ready
  obtain ⟨hlast, hmore⟩ := absorb_twin hworld (h.settle hworld.page)
  exact ⟨hlast, by simp only [World.drain, Trace.veiled_append, htrace, hmore]⟩

theorem setCookies_twin {jar other : Jar} (hjar : jar = other) (hw : WorldTwin page task w v) :
    WorldTwin page task (w.setCookies jar) (v.setCookies other) :=
  { hw with jar := hjar }

theorem reply_twin (outcome : Outcome) (hw : WorldTwin page task w v) :
    WorldTwin page task (w.reply outcome).1 (v.reply outcome).1 ∧
    (w.reply outcome).2 = (v.reply outcome).2 := by
  obtain ⟨s, jar, ready, waiting⟩ := w
  obtain ⟨t, jar', ready', waiting'⟩ := v
  obtain ⟨hpage, hjar, hready, hwaiting⟩ := hw
  cases hwaiting with
  | nil => exact ⟨⟨hpage, hjar, hready, .nil⟩, rfl⟩
  | cons hfirst hrest =>
    have hresumed := List.rel_append hready (.cons (.resume hfirst outcome) .nil)
    exact ⟨⟨hpage, hjar, hresumed, hrest⟩, rfl⟩

theorem act_twin (h : Keeps page event task p) {a b : Action ε} (hw : WorldTwin page task w v)
    (hab : ActionTwin event a b) :
    WorldTwin page task (w.act p a).1 (v.act p b).1 ∧ (w.act p a).2 = (v.act p b).2 := by
  cases hab with
  | event hef =>
    obtain ⟨hworld, htrace⟩ := absorb_twin hw (h.handle hw.page hef)
    exact ⟨hworld, by simp only [World.act, World.event, htrace]⟩
  | reply fetched cookies =>
    have hjar : cookies.or w.jar = cookies.or v.jar := by rw [hw.jar]
    obtain ⟨hworld, hanswered⟩ := reply_twin fetched.outcome (setCookies_twin hjar hw)
    exact ⟨hworld, by simp only [World.act, hanswered]⟩
  | setCookies jar => exact ⟨setCookies_twin rfl hw, rfl⟩
  | missed => exact ⟨hw, rfl⟩

theorem step_twin (h : Keeps page event task p) {a b : Action ε} (hold : Bool)
    (hw : WorldTwin page task w v) (hab : ActionTwin event a b) :
    WorldTwin page task (w.step p base a hold).1 (v.step p base b hold).1 ∧
    (w.step p base a hold).2.1.veiled = (v.step p base b hold).2.1.veiled ∧
    (w.step p base a hold).2.2 = (v.step p base b hold).2.2 := by
  obtain ⟨hworld, hseen⟩ := act_twin h hw hab
  cases hold with
  | true => exact ⟨hworld, by simp [World.step, hseen]⟩
  | false =>
    obtain ⟨hlast, hmore⟩ := drain_twin base h hworld
    refine ⟨hlast, ?_, ?_⟩
    · simp only [World.step, Bool.false_eq_true, if_false, Trace.veiled_append, hseen, hmore]
    · simp only [World.step, Bool.false_eq_true, if_false, hseen]

theorem mount_twin (h : Keeps page event task p) (jar : Jar) {a b : Reaction σ τ}
    (hr : ReactionTwin page task a b) :
    WorldTwin page task (World.mount p base jar a).1 (World.mount p base jar b).1 ∧
    (World.mount p base jar a).2.veiled = (World.mount p base jar b).2.veiled := by
  have hnew : WorldTwin page task ⟨a.state, jar, [], []⟩ ⟨b.state, jar, [], []⟩ :=
    ⟨hr.state, rfl, .nil, .nil⟩
  obtain ⟨hworld, htrace⟩ := absorb_twin hnew hr
  obtain ⟨hlast, hmore⟩ := drain_twin base h hworld
  exact ⟨hlast, by simp only [World.mount, Trace.veiled_append, htrace, hmore]⟩

end Step

/-- What a bystander takes in after an event: what the page shows, what has happened
since the last look, and whether there was anything to answer. -/
structure Sight (α : Type) where
  shown : α
  seen : Trace
  answered : Option Bool

section Watch

variable {σ ε τ α : Type} (p : Program σ ε τ) (base : Base) (view : σ → α)

/-- The sights of actions one after another, each with whether the browser is held. -/
def watch : World σ τ → List (Action ε × Bool) → List (Sight α)
  | _, [] => []
  | w, (action, hold) :: rest =>
    let (next, seen, answered) := w.step p base action hold
    ⟨view next.page, seen.veiled, answered⟩ :: watch next rest

/-- The sights of a page from its mounting on. -/
def watchFrom (jar : Jar) (r : Reaction σ τ) (actions : List (Action ε × Bool)) :
    List (Sight α) :=
  let (w, seen) := World.mount p base jar r
  ⟨view w.page, seen.veiled, none⟩ :: watch p base view w actions

variable {p view} {page : σ → σ → Prop} {event : ε → ε → Prop} {task : τ → τ → Prop}

/-- Two lists of actions that are related one by one. -/
abbrev ScriptTwin (event : ε → ε → Prop) : List (Action ε × Bool) → List (Action ε × Bool) → Prop :=
  List.Forall₂ fun a b => ActionTwin event a.1 b.1 ∧ a.2 = b.2

theorem watch_twin (h : Keeps page event task p) (hview : ∀ s t, page s t → view s = view t)
    {w v : World σ τ} (hw : WorldTwin page task w v) {as bs : List (Action ε × Bool)}
    (hab : ScriptTwin event as bs) : watch p base view w as = watch p base view v bs := by
  induction hab generalizing w v with
  | nil => rfl
  | @cons a b _ _ hab _ ih =>
    obtain ⟨action, hold⟩ := a
    obtain ⟨other, hold'⟩ := b
    obtain ⟨haction, rfl⟩ := hab
    obtain ⟨hworld, hseen, hanswered⟩ := step_twin base h hold hw haction
    have hshown :
        view (w.step p base action hold).1.page = view (v.step p base other hold).1.page :=
      hview _ _ hworld.page
    simp only [watch, hshown, hseen, hanswered, ih hworld]

theorem watchFrom_twin (h : Keeps page event task p) (hview : ∀ s t, page s t → view s = view t)
    (jar : Jar) {a b : Reaction σ τ} (hr : ReactionTwin page task a b)
    {as bs : List (Action ε × Bool)} (hab : ScriptTwin event as bs) :
    watchFrom p base view jar a as = watchFrom p base view jar b bs := by
  obtain ⟨hworld, hseen⟩ := mount_twin base h jar hr
  have hshown : view (World.mount p base jar a).1.page = view (World.mount p base jar b).1.page :=
    hview _ _ hworld.page
  simp only [watchFrom, hshown, hseen, watch_twin base h hview hworld hab]

end Watch

end AccountPortal.Browser
