import AccountPortal.Proofs.Backend.TokenHeader
import AccountPortal.Proofs.Browser.Delivery

/-!
The stores that requests are built on. A round changes the store by what happens in it
and by nothing else, and every request of the round is marked with the store that is
left then.
-/
namespace AccountPortal.Browser

open Backend Cookie Dialogue Http Page

variable {σ ε τ : Type}

def Input.jarAfter (jar : Jar) : Input ε → Jar
  | .event _ => jar
  | .reply _ _ cookies => cookies.or jar
  | .setCookies jar => jar

def SiteInput.jarAfter (jar : Jar) : SiteInput ε → Jar
  | .page input => input.jarAfter jar
  | .bootstrap _ cookies => cookies.or jar

/-- The stores after each of the bursts. -/
def stores : Jar → List (List (SiteInput ε)) → List Jar
  | _, [] => []
  | jar, burst :: rest =>
    burst.foldl SiteInput.jarAfter jar :: stores (burst.foldl SiteInput.jarAfter jar) rest

section Rounds

variable (p : Program σ ε τ) (base : Base) (site : World σ (Option τ)) (w : World σ τ)

/-- Tasks are run on the store as it is, and every request is marked with it. -/
theorem runTasks_sent (tasks : List (Ready τ)) :
    (w.runTasks p base tasks).1.jar = w.jar ∧
    ∀ r ∈ (w.runTasks p base tasks).2.sent, Marked w.jar r := by
  induction tasks generalizing w with
  | nil => exact ⟨rfl, fun r hr => absurd hr List.not_mem_nil⟩
  | cons task rest ih =>
    obtain ⟨hjar, hsent⟩ := ih (w.runTask p base task).1
    cases task with
    | start task =>
      refine ⟨hjar, ?_⟩
      intro r hr
      rcases List.mem_cons.mp hr with rfl | hr
      · exact buildRequest_marked base w.jar _ _ _
      · exact hsent r hr
    | resume task outcome => exact ⟨hjar, hsent⟩

theorem drain_sent {seen : Trace} (hnone : seen.sent = []) :
    (w.drain p base).1.jar = w.jar ∧
    ∀ r ∈ (seen.append (w.drain p base).2).sent, Marked w.jar r := by
  obtain ⟨hjar, hsent⟩ := runTasks_sent p base { w with ready := [] } w.ready
  refine ⟨hjar, ?_⟩
  intro r hr
  have hmem : r ∈ ({ w with ready := [] }.runTasks p base w.ready).2.sent := by
    simpa [World.drain, World.absorb, Trace.append, hnone] using hr
  exact hsent r hmem

theorem deliver_jar (kind : τ → Bool) (k : Nat) (fetched : Fetched) (cookies : Option String) :
    (w.deliver kind k fetched cookies).1.jar = cookies.or w.jar := by
  simp only [World.deliver]
  split <;> rfl

theorem take_jar (kind : τ → Bool) (input : Input ε) :
    (w.take p kind input).1.jar = input.jarAfter w.jar := by
  cases input with
  | event e => rfl
  | reply k fetched cookies => exact deliver_jar w kind k fetched cookies
  | setCookies jar => rfl

theorem take_sent (kind : τ → Bool) (input : Input ε) :
    (w.take p kind input).2.1.sent = [] := by
  cases input <;> rfl

theorem takeAll_jar (burst : List (Input ε)) :
    (w.takeAll p (fun _ => true) burst).1.jar = burst.foldl Input.jarAfter w.jar ∧
    (w.takeAll p (fun _ => true) burst).2.1.sent = [] := by
  induction burst generalizing w with
  | nil => exact ⟨rfl, rfl⟩
  | cons input rest ih =>
    obtain ⟨hjar, hsent⟩ := ih (w.take p (fun _ => true) input).1
    rw [take_jar] at hjar
    refine ⟨hjar, ?_⟩
    simp only [World.takeAll, Trace.append, take_sent, hsent, List.append_nil]

theorem takeSite_jar (burst : List (SiteInput ε)) :
    (site.takeSite p burst).1.jar = burst.foldl SiteInput.jarAfter site.jar ∧
    (site.takeSite p burst).2.1.sent = [] := by
  induction burst generalizing site with
  | nil => exact ⟨rfl, rfl⟩
  | cons input rest ih =>
    cases input with
    | page input =>
      obtain ⟨hjar, hsent⟩ := ih (site.take (withBootstrap p) Option.isSome input).1
      rw [take_jar] at hjar
      refine ⟨hjar, ?_⟩
      simp only [World.takeSite, Trace.append, take_sent, hsent, List.append_nil]
    | bootstrap fetched cookies =>
      obtain ⟨hjar, hsent⟩ := ih (site.deliver Option.isNone 0 fetched cookies).1
      rw [deliver_jar] at hjar
      exact ⟨hjar, hsent⟩

/-- What follows a burst is done on the store that the burst left. -/
theorem round_tokens (burst : List (Input ε)) :
    (w.round p base burst).1.jar = burst.foldl Input.jarAfter w.jar ∧
    ∀ r ∈ (w.round p base burst).2.1.sent, Marked (burst.foldl Input.jarAfter w.jar) r := by
  obtain ⟨htaken, hnone⟩ := takeAll_jar p w burst
  have hdrain := drain_sent p base (w.takeAll p (fun _ => true) burst).1 hnone
  rwa [htaken] at hdrain

theorem siteRound_tokens (burst : List (SiteInput ε)) :
    (site.siteRound p base burst).1.jar = burst.foldl SiteInput.jarAfter site.jar ∧
    ∀ r ∈ (site.siteRound p base burst).2.1.sent,
      Marked (burst.foldl SiteInput.jarAfter site.jar) r := by
  obtain ⟨htaken, hnone⟩ := takeSite_jar p site burst
  have hdrain := drain_sent (withBootstrap p) base (site.takeSite p burst).1 hnone
  rwa [htaken] at hdrain

/-- Every request is marked with the store of its own moment. -/
theorem siteRounds_tokens (schedule : List (List (SiteInput ε))) :
    (siteRounds p base site schedule).map (·.2.jar) = stores site.jar schedule ∧
    ∀ e ∈ siteRounds p base site schedule, ∀ r ∈ e.2.trace.sent,
      Marked e.2.jar r := by
  induction schedule generalizing site with
  | nil => exact ⟨rfl, fun e he => absurd he List.not_mem_nil⟩
  | cons burst rest ih =>
    obtain ⟨hjar, hsent⟩ := siteRound_tokens p base site burst
    obtain ⟨hstores, htokens⟩ := ih (site.siteRound p base burst).1
    constructor
    · simp only [siteRounds, List.map_cons, stores, hstores, hjar]
    · intro e he
      rcases List.mem_cons.mp he with rfl | he
      · intro r hr
        have hmarked := hsent r hr
        rwa [← hjar] at hmarked
      · exact htokens e he

end Rounds

end AccountPortal.Browser
