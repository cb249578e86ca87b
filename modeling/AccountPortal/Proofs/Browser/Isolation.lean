import AccountPortal.Proofs.Backend.Submitted
import AccountPortal.Proofs.Browser.Tokens

/-!
A page in the site goes the way that it would go by itself. The site has one more task
under way, the bootstrap, and its store may have other cookies; all else of its world
is the world of the page alone. The relation holds when the page is mounted, both worlds
go on alike whatever happens to the page, and the reply to the bootstrap changes nothing
but the store.
-/
namespace AccountPortal.Browser

open Backend Cookie Dialogue Http Page

variable {σ ε τ : Type}

/-- A task of the site as one of the page, unless it is the bootstrap. -/
def Ready.mine? : Ready (Option τ) → Option (Ready τ)
  | .start task => task.map .start
  | .resume task outcome => task.map (.resume · outcome)

/-- A request without its headers. -/
def bare (r : Request) : Request := { r with headers := [] }

/-- What is seen of requests, without their headers, and of the page's doings. -/
def Trace.bare (t : Trace) : Trace := { t with sent := t.sent.map Browser.bare, log := [] }

theorem Trace.bare_append (a b : Trace) : (a.append b).bare = a.bare.append b.bare := by
  simp only [Trace.bare, Trace.append, List.map_append, List.append_nil]

/-- The world of the site is that of the page but for the bootstrap and the cookies, and
the bootstrap has been sent. -/
structure Shadows (site : World σ (Option τ)) (w : World σ τ) : Prop where
  page : site.page = w.page
  ready : site.ready.filterMap Ready.mine? = w.ready
  begun : .start none ∉ site.ready
  waiting : site.waiting.reduceOption = w.waiting

/-- A page whose conclusions and watching start nothing, whatever the store, and which
looks at its own state once. -/
structure Composed (p : Program σ ε τ) : Prop where
  jar : ∀ task outcome a b, (p.task task).conclude outcome a = (p.task task).conclude outcome b
  conclude : ∀ task outcome jar s, (((p.task task).conclude outcome jar).1 s).started = []
  settle : ∀ s, (p.settle s).started = []
  again : ∀ s, p.settle (p.settle s).state = .quiet (p.settle s).state

/-- Nothing is left to do before something happens. -/
structure AtRest (p : Program σ ε τ) (w : World σ τ) : Prop where
  ready : w.ready = []
  settled : p.settle w.page = .quiet w.page

theorem pick?_isSome (k : Nat) (tasks : List (Option τ)) :
    pick? (fun _ => true) k tasks.reduceOption =
      (pick? Option.isSome k tasks).bind fun (task, left) =>
        task.map fun task => (task, left.reduceOption) := by
  induction tasks generalizing k with
  | nil => cases k <;> rfl
  | cons first rest ih =>
    cases first with
    | none =>
      have hskip : pick? Option.isSome k (none :: rest) =
          (pick? Option.isSome k rest).map fun (found, left) => (found, none :: left) := by
        cases k <;> rfl
      rw [List.reduceOption_cons_of_none, ih, hskip, Option.bind_map]
      rfl
    | some task =>
      rw [List.reduceOption_cons_of_some]
      cases k with
      | zero => rfl
      | succ k =>
        simp only [pick?, if_true, Option.isSome_some, ih, Option.map_bind, Option.bind_map]
        congr 1
        funext ⟨found, left⟩
        cases found <;> simp [List.reduceOption_cons_of_some]

theorem kind_of_pick? {α : Type} {kind : α → Bool} {k : Nat} {l left : List α} {a : α}
    (h : pick? kind k l = some (a, left)) : kind a = true := by
  induction l generalizing k left with
  | nil => cases k <;> cases h
  | cons first rest ih =>
    cases k with
    | zero =>
      rw [pick?] at h
      split at h
      · rename_i hkind
        cases h
        exact hkind
      · obtain ⟨⟨found, left'⟩, hfound, heq⟩ := Option.map_eq_some_iff.mp h
        obtain ⟨rfl, rfl⟩ := Prod.mk.inj heq
        exact ih hfound
    | succ k =>
      obtain ⟨⟨found, left'⟩, hfound, heq⟩ := Option.map_eq_some_iff.mp h
      obtain ⟨rfl, rfl⟩ := Prod.mk.inj heq
      exact ih hfound

theorem pick?_isNone {tasks left : List (Option τ)} {task : Option τ}
    (h : pick? Option.isNone 0 tasks = some (task, left)) :
    task = none ∧ left.reduceOption = tasks.reduceOption := by
  induction tasks generalizing left with
  | nil => cases h
  | cons first rest ih =>
    cases first with
    | none =>
      cases h
      exact ⟨rfl, (List.reduceOption_cons_of_none _).symm⟩
    | some other =>
      simp only [pick?, Option.isNone_some, Bool.false_eq_true, if_false] at h
      obtain ⟨⟨found, left'⟩, hfound, heq⟩ := Option.map_eq_some_iff.mp h
      obtain ⟨rfl, rfl⟩ := Prod.mk.inj heq
      obtain ⟨hnone, hleft⟩ := ih hfound
      exact ⟨hnone, by rw [List.reduceOption_cons_of_some, List.reduceOption_cons_of_some, hleft]⟩

section Take

variable {p : Program σ ε τ} {site : World σ (Option τ)} {w : World σ τ}

theorem absorb_shadows (h : Shadows site w) (r : Reaction σ τ) :
    Shadows (site.absorb (withBootstrap.lift r)).1 (w.absorb r).1 ∧
    (site.absorb (withBootstrap.lift r)).2 = (w.absorb r).2 := by
  have hown : ((r.started.map some).map Ready.start).filterMap Ready.mine? =
      r.started.map Ready.start := by
    simp [List.filterMap_map, Function.comp_def, Ready.mine?]
  refine ⟨⟨rfl, ?_, ?_, h.waiting⟩, rfl⟩
  · simp only [World.absorb, withBootstrap.lift, List.filterMap_append, h.ready, hown]
  · simp [World.absorb, withBootstrap.lift, h.begun]

theorem deliver_shadows (h : Shadows site w) (k : Nat) (fetched : Fetched)
    (cookies : Option String) :
    Shadows (site.deliver Option.isSome k fetched cookies).1
      (w.deliver (fun _ => true) k fetched cookies).1 ∧
    (site.deliver Option.isSome k fetched cookies).2 =
      (w.deliver (fun _ => true) k fetched cookies).2 := by
  have hpick := pick?_isSome k site.waiting
  rw [h.waiting] at hpick
  simp only [World.deliver, World.setCookies, hpick]
  cases hsite : pick? Option.isSome k site.waiting with
  | none => exact ⟨⟨h.page, h.ready, h.begun, h.waiting⟩, rfl⟩
  | some picked =>
    obtain ⟨task, left⟩ := picked
    obtain ⟨own, rfl⟩ := Option.isSome_iff_exists.mp (kind_of_pick? hsite)
    refine ⟨⟨h.page, ?_, ?_, rfl⟩, rfl⟩
    · simp [h.ready, Ready.mine?]
    · simp [h.begun]

/-- The reply to the bootstrap is none of the page's. -/
theorem deliver_bootstrap_shadows (h : Shadows site w) (fetched : Fetched)
    (cookies : Option String) :
    Shadows (site.deliver Option.isNone 0 fetched cookies).1 w := by
  simp only [World.deliver, World.setCookies]
  cases hpick : pick? Option.isNone 0 site.waiting with
  | none => exact ⟨h.page, h.ready, h.begun, h.waiting⟩
  | some picked =>
    obtain ⟨task, left⟩ := picked
    obtain ⟨rfl, hleft⟩ := pick?_isNone hpick
    refine ⟨h.page, ?_, ?_, hleft.trans h.waiting⟩
    · simp [h.ready, Ready.mine?]
    · simp [h.begun]

theorem take_shadows (h : Shadows site w) (input : Input ε) :
    Shadows (site.take (withBootstrap p) Option.isSome input).1
      (w.take p (fun _ => true) input).1 ∧
    (site.take (withBootstrap p) Option.isSome input).2 = (w.take p (fun _ => true) input).2 := by
  cases input with
  | event e =>
    obtain ⟨habsorb, htrace⟩ := absorb_shadows h (p.handle w.page e)
    have hhandle : (withBootstrap p).handle site.page e =
        withBootstrap.lift (p.handle w.page e) :=
      congrArg (fun s => withBootstrap.lift (p.handle s e)) h.page
    simp only [World.take, World.event, hhandle, htrace]
    exact ⟨habsorb, trivial⟩
  | reply k fetched cookies =>
    obtain ⟨hdeliver, hanswered⟩ := deliver_shadows h k fetched cookies
    simp only [World.take, hanswered]
    exact ⟨hdeliver, trivial⟩
  | setCookies jar => exact ⟨⟨h.page, h.ready, h.begun, h.waiting⟩, rfl⟩

/-- Within a burst the page sees what happens to it and nothing else. -/
theorem takeSite_shadows (h : Shadows site w) (burst : List (SiteInput ε)) :
    let alone := w.takeAll p (fun _ => true) (ownPart burst)
    Shadows (site.takeSite p burst).1 alone.1 ∧ (site.takeSite p burst).2 = alone.2 := by
  induction burst generalizing site w with
  | nil => exact ⟨h, rfl⟩
  | cons input rest ih =>
    cases input with
    | page input =>
      obtain ⟨htake, hseen⟩ := take_shadows (p := p) h input
      obtain ⟨hlast, hmore⟩ := ih htake
      refine ⟨hlast, ?_⟩
      have hown : ownPart (.page input :: rest) = input :: ownPart rest := rfl
      simp only [hown, World.takeSite, World.takeAll, hseen, hmore, htake.page]
    | bootstrap fetched cookies => exact ih (deliver_bootstrap_shadows h fetched cookies)

end Take

section Run

variable {p : Program σ ε τ} (hp : Composed p) (base : Base) {site : World σ (Option τ)}
  {w : World σ τ}

/-- The bootstrap ends with nothing but lines in the log. -/
theorem runTask_bootstrap (outcome : Outcome) :
    site.runTask (withBootstrap p) base (.resume none outcome) =
      (site, ⟨[], [], 0, (bootstrap.conclude outcome site.jar).2⟩) := by
  simp [World.runTask, World.absorb, withBootstrap, Exchange.map, Exchange.andThen, Reaction.quiet]

include hp

theorem runTask_shadows (h : Shadows site w) {task : Ready (Option τ)} {own : Ready τ}
    (hown : task.mine? = some own) :
    Shadows (site.runTask (withBootstrap p) base task).1 (w.runTask p base own).1 ∧
    (site.runTask (withBootstrap p) base task).2.bare = (w.runTask p base own).2.bare := by
  cases task with
  | start task =>
    obtain ⟨task, rfl, rfl⟩ := Option.map_eq_some_iff.mp hown
    refine ⟨⟨h.page, h.ready, h.begun, ?_⟩, rfl⟩
    simp [World.runTask, List.reduceOption_append, h.waiting]
  | resume task outcome =>
    obtain ⟨task, rfl, rfl⟩ := Option.map_eq_some_iff.mp hown
    obtain ⟨habsorb, htrace⟩ := absorb_shadows h
      (((p.task task).conclude outcome w.jar).1 w.page)
    have hconclude := hp.jar task outcome site.jar w.jar
    constructor
    · simpa [World.runTask, withBootstrap, Exchange.map, Exchange.andThen, hconclude, h.page]
        using habsorb
    · simp [World.runTask, withBootstrap, Exchange.map, Exchange.andThen, hconclude, h.page,
        htrace, Trace.bare]

theorem runTasks_shadows (h : Shadows site w) (tasks : List (Ready (Option τ)))
    (hbegun : .start none ∉ tasks) :
    let alone := w.runTasks p base (tasks.filterMap Ready.mine?)
    Shadows (site.runTasks (withBootstrap p) base tasks).1 alone.1 ∧
    (site.runTasks (withBootstrap p) base tasks).2.bare = alone.2.bare := by
  induction tasks generalizing site w with
  | nil => exact ⟨h, rfl⟩
  | cons task rest ih =>
    obtain ⟨hfirst, hrest⟩ := List.ne_and_not_mem_of_not_mem_cons hbegun
    cases hmine : task.mine? with
    | some own =>
      obtain ⟨hnext, htrace⟩ := runTask_shadows hp base h hmine
      obtain ⟨hlast, hmore⟩ := ih hnext hrest
      rw [List.filterMap_cons_some hmine]
      refine ⟨hlast, ?_⟩
      simp only [World.runTasks, Trace.bare_append, htrace, hmore]
    | none =>
      obtain ⟨outcome, rfl⟩ : ∃ outcome, task = .resume none outcome := by
        cases task with
        | start task =>
          obtain rfl := Option.map_eq_none_iff.mp hmine
          exact absurd rfl hfirst
        | resume task outcome =>
          obtain rfl := Option.map_eq_none_iff.mp hmine
          exact ⟨outcome, rfl⟩
      obtain ⟨hlast, hmore⟩ := ih h hrest
      rw [List.filterMap_cons_none hmine]
      simp only [World.runTasks, runTask_bootstrap, Trace.bare_append, hmore]
      exact ⟨hlast, by simp [Trace.bare, Trace.append]⟩

theorem drain_shadows (h : Shadows site w) :
    Shadows (site.drain (withBootstrap p) base).1 (w.drain p base).1 ∧
    (site.drain (withBootstrap p) base).2.bare = (w.drain p base).2.bare := by
  let siteRan := { site with ready := [] }.runTasks (withBootstrap p) base site.ready
  let ran := { w with ready := [] }.runTasks p base w.ready
  have hbegin : Shadows { site with ready := [] } { w with ready := [] } :=
    ⟨h.page, rfl, List.not_mem_nil, h.waiting⟩
  obtain ⟨hran, htrace⟩ : Shadows siteRan.1 ran.1 ∧ siteRan.2.bare = ran.2.bare := by
    have hrun := runTasks_shadows hp base hbegin site.ready h.begun
    rwa [h.ready] at hrun
  obtain ⟨hsettled, hmore⟩ := absorb_shadows hran (p.settle ran.1.page)
  have hsettle : (withBootstrap p).settle siteRan.1.page =
      withBootstrap.lift (p.settle ran.1.page) :=
    congrArg (fun s => withBootstrap.lift (p.settle s)) hran.page
  have hsite : site.drain (withBootstrap p) base =
      ((siteRan.1.absorb ((withBootstrap p).settle siteRan.1.page)).1,
        siteRan.2.append (siteRan.1.absorb ((withBootstrap p).settle siteRan.1.page)).2) := rfl
  rw [hsite, hsettle, hmore]
  refine ⟨hsettled, ?_⟩
  rw [Trace.bare_append, htrace, ← Trace.bare_append]
  rfl

theorem runTasks_ready (w : World σ τ) (tasks : List (Ready τ)) :
    (w.runTasks p base tasks).1.ready = w.ready := by
  induction tasks generalizing w with
  | nil => rfl
  | cons task rest ih =>
    rw [World.runTasks]
    simp only [ih]
    cases task with
    | start task => rfl
    | resume task outcome => simp [World.runTask, World.absorb, hp.conclude]

theorem drain_atRest (w : World σ τ) : AtRest p (w.drain p base).1 where
  ready := by simp [World.drain, World.absorb, hp.settle, runTasks_ready hp]
  settled := hp.again _

/-- In a round of the site the page goes the way that it goes by itself. -/
theorem round_shadows (h : Shadows site w) (burst : List (SiteInput ε)) :
    let there := site.siteRound p base burst
    let alone := w.round p base (ownPart burst)
    Shadows there.1 alone.1 ∧ there.2.1.bare = alone.2.1.bare ∧ there.2.2 = alone.2.2 ∧
      AtRest p alone.1 := by
  obtain ⟨htake, hseen⟩ := takeSite_shadows (p := p) h burst
  obtain ⟨hdrain, htrace⟩ := drain_shadows hp base htake
  simp only [World.siteRound, World.round, hseen, Trace.bare_append, htrace]
  exact ⟨hdrain, trivial, trivial, drain_atRest hp base _⟩

omit hp

theorem round_nil (h : AtRest p w) : w.round p base [] = (w, .empty, []) := by
  obtain ⟨page, jar, ready, waiting⟩ := w
  obtain ⟨hready, hsettled⟩ := h
  cases hready
  simp only at hsettled
  simp [World.round, World.takeAll, World.drain, World.runTasks, World.absorb, hsettled,
    Reaction.quiet, Trace.empty, Trace.append]

theorem mount_eq (q : Program σ ε τ) (jar : Jar) (r : Reaction σ τ) :
    World.mount q base jar r =
      (⟨(q.settle r.state).state, jar, (q.settle r.state).started.map .start, r.started⟩,
        ⟨r.started.map fun t => (q.task t).request base jar,
          r.navigated ++ (q.settle r.state).navigated,
          r.prevented + (q.settle r.state).prevented,
          r.log ++ (r.started.map (fun t => (q.task t).announcement base) ++
            (q.settle r.state).log)⟩) := by
  simp [World.mount, World.absorb, World.drain, World.runTasks_start, Trace.append]

include hp

theorem mount_shadows (jar : Jar) (r : Reaction σ τ) :
    let there := World.mount (withBootstrap p) base jar (bootstrapping r)
    let alone := World.mount p base jar r
    Shadows there.1 alone.1 ∧ AtRest p alone.1 ∧
      there.2.sent = bootstrap.request base jar :: alone.2.sent ∧
      there.2.navigated = alone.2.navigated ∧ there.2.prevented = alone.2.prevented := by
  have hwaiting : (none :: r.started.map some).reduceOption = r.started := by
    simp [List.reduceOption]
  have hstarted : ((withBootstrap p).settle r.state).started = [] :=
    congrArg (List.map some) (hp.settle r.state)
  have hnone : (p.settle r.state).started = [] := hp.settle r.state
  rw [mount_eq, mount_eq]
  refine ⟨⟨rfl, ?_, ?_, hwaiting⟩, ⟨by simp [hnone], hp.again r.state⟩, ?_, rfl, rfl⟩
  · simp [bootstrapping, hstarted, hnone]
  · simp [bootstrapping, hstarted]
  · simp only [bootstrapping, List.map_cons, List.map_map]
    rfl

end Run

/-- What a page and its visitor can tell of a round. Requests count without their headers. -/
structure Moment (σ : Type) where
  glances : List (Glance σ)
  page : σ
  seen : Trace

def Account.moment (a : Account σ) : Moment σ := ⟨a.glances, a.page, a.trace.bare⟩

/-- The bursts in which something happens to the page, with what it is. -/
def ownBursts (schedule : List (List (SiteInput ε))) : List (List (Input ε)) :=
  (schedule.map ownPart).filter (!·.isEmpty)

/-- The moments of the page among the rounds of the site. -/
def pageMoments (run : List (List (SiteInput ε) × Account σ)) : List (Moment σ) :=
  (run.filter fun e => !(ownPart e.1).isEmpty).map fun e => e.2.moment

section Skip

variable {burst : List (SiteInput ε)} {a : Account σ}

theorem ownBursts_skip (h : ownPart burst = []) (rest : List (List (SiteInput ε))) :
    ownBursts (burst :: rest) = ownBursts rest := by
  simp [ownBursts, h]

theorem ownBursts_keep (h : ownPart burst ≠ []) (rest : List (List (SiteInput ε))) :
    ownBursts (burst :: rest) = ownPart burst :: ownBursts rest := by
  simp [ownBursts, h]

theorem pageMoments_skip (h : ownPart burst = []) (run : List (List (SiteInput ε) × Account σ)) :
    pageMoments ((burst, a) :: run) = pageMoments run := by
  simp [pageMoments, h]

theorem pageMoments_keep (h : ownPart burst ≠ []) (run : List (List (SiteInput ε) × Account σ)) :
    pageMoments ((burst, a) :: run) = a.moment :: pageMoments run := by
  simp [pageMoments, h]

end Skip

/-- Whether this is anything but a reply to the bootstrap that sets cookies. -/
def SiteInput.calm : SiteInput ε → Bool
  | .page _ => true
  | .bootstrap _ cookies => cookies.isNone

section Runs

variable {p : Program σ ε τ} (hp : Composed p) (base : Base) {site : World σ (Option τ)}
  {w : World σ τ}

theorem jarAfter_ownPart {burst : List (SiteInput ε)} (hcalm : ∀ input ∈ burst, input.calm)
    (jar : Jar) :
    burst.foldl SiteInput.jarAfter jar = (ownPart burst).foldl Input.jarAfter jar := by
  induction burst generalizing jar with
  | nil => rfl
  | cons input rest ih =>
    obtain ⟨hfirst, hrest⟩ := List.forall_mem_cons.mp hcalm
    cases input with
    | page input => exact ih hrest (input.jarAfter jar)
    | bootstrap fetched cookies =>
      obtain rfl := Option.isNone_iff_eq_none.mp hfirst
      exact ih hrest jar

theorem eq_of_map_bare {l l' : List Request} {headers : List (String × String)}
    (hbare : l.map bare = l'.map bare) (h : ∀ r ∈ l, r.headers = headers)
    (h' : ∀ r ∈ l', r.headers = headers) : l = l' := by
  have hdress : ∀ l : List Request, (∀ r ∈ l, r.headers = headers) →
      (l.map bare).map ({ · with headers := headers }) = l := by
    intro l hl
    rw [List.map_map]
    refine (List.map_congr_left ?_).trans (List.map_id l)
    intro r hr
    cases r
    cases hl _ hr
    rfl
  rw [← hdress l h, hbare, hdress l' h']

/-- A burst without a part of the page's own makes no difference to what the page sends. -/
theorem ownBursts_sent (hrest : AtRest p w) (burst : List (SiteInput ε))
    (schedule : List (List (SiteInput ε))) :
    let alone := w.round p base (ownPart burst)
    (rounds p base w (ownBursts (burst :: schedule))).flatMap (·.trace.sent) =
      alone.2.1.sent ++ (rounds p base alone.1 (ownBursts schedule)).flatMap (·.trace.sent) := by
  by_cases hpart : ownPart burst = []
  · rw [ownBursts_skip hpart, hpart, round_nil base hrest]
    rfl
  · rw [ownBursts_keep hpart]
    rfl

include hp

/-- The page goes the way that it would go by itself, and the bootstrap passes it by. -/
theorem siteRounds_shadows (h : Shadows site w) (hrest : AtRest p w)
    (schedule : List (List (SiteInput ε))) :
    let run := siteRounds p base site schedule
    let alone := rounds p base w (ownBursts schedule)
    pageMoments run = alone.map Account.moment ∧
    (run.flatMap (·.2.trace.sent)).map bare = (alone.flatMap (·.trace.sent)).map bare ∧
    ∀ e ∈ run, ownPart e.1 = [] →
      e.2.page = e.2.found ∧ e.2.trace.bare = Trace.empty := by
  induction schedule generalizing site w with
  | nil => exact ⟨rfl, rfl, fun e he => absurd he List.not_mem_nil⟩
  | cons burst rest ih =>
    obtain ⟨hnext, htrace, hglances, hcalm⟩ := round_shadows hp base h burst
    obtain ⟨hmoments, hsent, hapart⟩ := ih hnext hcalm
    have hall : ((siteRounds p base site (burst :: rest)).flatMap (·.2.trace.sent)).map bare =
        ((rounds p base w (ownBursts (burst :: rest))).flatMap (·.trace.sent)).map bare := by
      rw [ownBursts_sent base hrest]
      simp only [siteRounds, List.flatMap_cons, List.map_append]
      exact congrArg₂ List.append (congrArg Trace.sent htrace) hsent
    refine ⟨?_, hall, ?_⟩
    · by_cases hpart : ownPart burst = []
      · rw [hpart, round_nil base hrest] at hmoments
        rw [ownBursts_skip hpart, siteRounds, pageMoments_skip hpart]
        exact hmoments
      · rw [ownBursts_keep hpart, siteRounds, rounds, pageMoments_keep hpart, List.map_cons]
        simp only [Account.moment, hglances, hnext.page, htrace, hmoments]
    · intro e he
      rcases List.mem_cons.mp he with rfl | he
      · intro hnone
        rw [hnone, round_nil base hrest] at hnext htrace
        exact ⟨hnext.page.trans h.page.symm, htrace⟩
      · exact hapart e he

/-- Until the reply to the bootstrap sets cookies, requests do not differ at all. -/
theorem siteRounds_calm (h : Shadows site w) (hrest : AtRest p w) (hjar : site.jar = w.jar)
    {first : List (List (SiteInput ε))} (hcalm : ∀ burst ∈ first, ∀ input ∈ burst, input.calm)
    (later : List (List (SiteInput ε))) :
    (rounds p base w (ownBursts first)).flatMap (·.trace.sent) <+:
      (siteRounds p base site (first ++ later)).flatMap (·.2.trace.sent) := by
  induction first generalizing site w with
  | nil => exact List.nil_prefix
  | cons burst rest ih =>
    obtain ⟨hburst, hothers⟩ := List.forall_mem_cons.mp hcalm
    obtain ⟨hnext, htrace, -, hnextRest⟩ := round_shadows hp base h burst
    obtain ⟨hsiteJar, hsiteSent⟩ := siteRound_tokens p base site burst
    obtain ⟨hownJar, hownSent⟩ := round_tokens p base w (ownPart burst)
    rw [jarAfter_ownPart hburst, hjar] at hsiteJar hsiteSent
    have hsame : (site.siteRound p base burst).2.1.sent =
        (w.round p base (ownPart burst)).2.1.sent :=
      eq_of_map_bare (congrArg Trace.sent htrace) (fun r hr => (hsiteSent r hr).headers)
        fun r hr => (hownSent r hr).headers
    rw [ownBursts_sent base hrest, List.cons_append]
    simp only [siteRounds, List.flatMap_cons, hsame]
    rw [List.prefix_append_right_inj]
    exact ih hnext hnextRest (hsiteJar.trans hownJar.symm) hothers

end Runs

/-- The site in a browser as it is opened on a page: the bootstrap starts, and then what
the page starts. -/
def openSite (p : Program σ ε τ) (base : Base) (jar : Jar) (r : Reaction σ τ) :
    World σ (Option τ) × Trace :=
  World.mount (withBootstrap p) base jar (bootstrapping r)

/-- A request of the bootstrap: it asks for the account and has no body. -/
structure Probes (base : Base) (r : Request) : Prop where
  method : r.method = .get
  url : r.url = base.address ++ "/auth/me/"
  body : r.body = none

theorem probes_bootstrap (base : Base) (jar : Jar) : Probes base (bootstrap.request base jar) where
  method := rfl
  url := endpoint_me base
  body := rfl

/-- A page that the bootstrap leaves alone, whenever its reply arrives. -/
structure Isolated (p : Program σ ε τ) (base : Base) (jar : Jar) (r : Reaction σ τ) : Prop where
  /-- The site is opened with one request more than the page by itself, the bootstrap. -/
  opened :
    let site := openSite p base jar r
    let alone := World.mount p base jar r
    site.1.page = alone.1.page ∧
      (∃ probe, Probes base probe ∧ site.2.sent = probe :: alone.2.sent) ∧
      (∀ q ∈ site.2.sent, Marked jar q) ∧
      site.2.navigated = alone.2.navigated ∧ site.2.prevented = alone.2.prevented
  /-- All later requests are the page's own, up to their headers. -/
  once : ∀ schedule : List (List (SiteInput ε)),
    ((siteRounds p base (openSite p base jar r).1 schedule).flatMap (·.2.trace.sent)).map bare =
      ((rounds p base (World.mount p base jar r).1 (ownBursts schedule)).flatMap
        (·.trace.sent)).map bare
  /-- The page looks and does after each event and reply as it does by itself. -/
  moments : ∀ schedule : List (List (SiteInput ε)),
    pageMoments (siteRounds p base (openSite p base jar r).1 schedule) =
      (rounds p base (World.mount p base jar r).1 (ownBursts schedule)).map Account.moment
  /-- So it does not matter when the reply arrives, nor whether it does. -/
  whenever : ∀ schedule other : List (List (SiteInput ε)), ownBursts schedule = ownBursts other →
    pageMoments (siteRounds p base (openSite p base jar r).1 schedule) =
      pageMoments (siteRounds p base (openSite p base jar r).1 other)
  /-- While nothing happens to the page, it stays as it is and nothing is seen of it. -/
  apart : ∀ schedule, ∀ e ∈ siteRounds p base (openSite p base jar r).1 schedule,
    ownPart e.1 = [] → e.2.page = e.2.found ∧ e.2.trace.bare = Trace.empty
  /-- Every request carries the token of the store of the moment that it is sent at. -/
  tokens : ∀ schedule : List (List (SiteInput ε)),
    (siteRounds p base (openSite p base jar r).1 schedule).map (·.2.jar) = stores jar schedule ∧
    ∀ e ∈ siteRounds p base (openSite p base jar r).1 schedule, ∀ q ∈ e.2.trace.sent,
      Marked e.2.jar q
  /-- The headers differ from those of the page by itself only once the reply to the
  bootstrap has set cookies. -/
  unchanged : ∀ first later : List (List (SiteInput ε)),
    (∀ burst ∈ first, ∀ input ∈ burst, input.calm) →
    (rounds p base (World.mount p base jar r).1 (ownBursts first)).flatMap (·.trace.sent) <+:
      (siteRounds p base (openSite p base jar r).1 (first ++ later)).flatMap (·.2.trace.sent)

theorem Composed.isolated {p : Program σ ε τ} (hp : Composed p) (base : Base) (jar : Jar)
    (r : Reaction σ τ) : Isolated p base jar r := by
  obtain ⟨hshadows, hrest, hsent, hnavigated, hprevented⟩ := mount_shadows hp base jar r
  have hsiteJar : (openSite p base jar r).1.jar = jar := by rw [openSite, mount_eq]
  have hjar : (World.mount p base jar r).1.jar = jar := by rw [mount_eq]
  have hrun := siteRounds_shadows hp base hshadows hrest
  refine
    { opened := ⟨hshadows.page, ⟨_, probes_bootstrap base jar, hsent⟩, ?_, hnavigated, hprevented⟩
      once := fun schedule => (hrun schedule).2.1
      moments := fun schedule => (hrun schedule).1
      whenever := ?_
      apart := fun schedule => (hrun schedule).2.2
      tokens := ?_
      unchanged := ?_ }
  · rw [openSite, mount_eq]
    intro q hq
    obtain ⟨task, -, rfl⟩ := List.mem_map.mp hq
    exact buildRequest_marked base jar _ _ _
  · intro schedule other hsame
    exact ((hrun schedule).1.trans (by rw [hsame])).trans (hrun other).1.symm
  · intro schedule
    have htokens := siteRounds_tokens p base (openSite p base jar r).1 schedule
    rwa [hsiteJar] at htokens
  · intro first later hcalm
    exact siteRounds_calm hp base hshadows hrest (hsiteJar.trans hjar.symm) hcalm later

end AccountPortal.Browser
