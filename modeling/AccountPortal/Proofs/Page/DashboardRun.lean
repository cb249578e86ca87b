import AccountPortal.Page.Dashboard
import AccountPortal.Proofs.Backend.Submitted
import AccountPortal.Proofs.Backend.Verdict
import AccountPortal.Proofs.Browser.Round
import AccountPortal.Proofs.Page.Exhibit

/-!
Runs of the dashboard, of any length and in any order of replies, clicks on the
button while it is there, turns of the tasks and looks of the guard. The course
of a visit is told from these inputs alone. The world of the page is at every
moment the one that belongs to the course, so the two ways of leaving, the guard
and the button, exclude each other and neither is taken twice.
-/
namespace AccountPortal.Page.Dashboard

open Backend Browser Cookie Form Http

/-- What may happen to the page. Tasks and the guard have their turns at any time. -/
inductive Input where
  | click
  | reply (fetched : Fetched) (cookies : Option String)
  | setCookies (jar : Jar)
  | work
  | tick

/-- The page after an input, and what is seen of it. A click needs the button. -/
def advance (base : Base) (w : World State Task) : Input → World State Task × Trace
  | .click => if hasLogout w.page then w.event program .logout else (w, .empty)
  | .reply fetched cookies =>
    (((w.setCookies (cookies.or w.jar)).reply fetched.outcome).1, .empty)
  | .setCookies jar => (w.setCookies jar, .empty)
  | .work => { w with ready := [] }.runTasks program base w.ready
  | .tick => w.absorb (program.settle w.page)

def play (base : Base) : World State Task → List Input → World State Task × Trace
  | w, [] => (w, .empty)
  | w, input :: rest =>
    let (next, seen) := advance base w input
    let (last, more) := play base next rest
    (last, seen.append more)

/-- The page from its mounting on, with what is seen of it. -/
def run (base : Base) (jar : Jar) (flash : Flash) (inputs : List Input) :
    World State Task × Trace :=
  let (w, seen) := World.mount program base jar (mount flash)
  let (last, more) := play base w inputs
  (last, seen.append more)

/-- What is meant for the button misses while the button is not there. -/
def aimed (w : World State Task) : Action Event → Action Event
  | .event .logout => if hasLogout w.page then .event .logout else .missed
  | action => action

/-- Rounds of a browser one after another, each held or not. -/
def rounds (base : Base) :
    World State Task → List (Action Event × Bool) → World State Task × Trace
  | w, [] => (w, .empty)
  | w, (action, hold) :: rest =>
    let (next, seen, _) := w.step program base (aimed w action) hold
    let (last, more) := rounds base next rest
    (last, seen.append more)

/-- The page in a browser from its mounting on. -/
def browse (base : Base) (jar : Jar) (flash : Flash) (actions : List (Action Event × Bool)) :
    World State Task × Trace :=
  let (w, seen) := World.mount program base jar (mount flash)
  let (last, more) := rounds base w actions
  (last, seen.append more)

/-- The turns that end a round, unless the browser is held. -/
def turns : Bool → List Input
  | true => []
  | false => [.work, .tick]

def inputsOf (action : Action Event) (hold : Bool) : List Input :=
  match action with
  | .event .logout => .click :: turns hold
  | .reply fetched cookies => .reply fetched cookies :: turns hold
  | .setCookies jar => .setCookies jar :: turns hold
  | .missed => turns hold

def allInputs (actions : List (Action Event × Bool)) : List Input :=
  actions.flatMap fun (action, hold) => inputsOf action hold

theorem play_append (base : Base) (w : World State Task) (left right : List Input) :
    play base w (left ++ right) =
      ((play base (play base w left).1 right).1,
        (play base w left).2.append (play base (play base w left).1 right).2) := by
  induction left generalizing w with
  | nil => simp [play, Trace.empty_append]
  | cons input rest ih => simp only [List.cons_append, play, ih, Trace.append_assoc]

theorem play_turns (base : Base) (w : World State Task) (hold : Bool) :
    play base w (turns hold) = if hold then (w, .empty) else w.drain program base := by
  cases hold with
  | true => rfl
  | false => simp [turns, play, advance, World.drain, Trace.append_empty]

/-- A round is made of inputs. -/
theorem step_eq_play (base : Base) (w : World State Task) (action : Action Event) (hold : Bool) :
    let s := w.step program base (aimed w action) hold
    (s.1, s.2.1) = play base w (inputsOf action hold) := by
  cases action with
  | event e =>
    cases hbutton : hasLogout w.page <;> cases hold <;>
      simp [aimed, World.step, World.act, inputsOf, play, advance, hbutton, play_turns,
        Trace.append_empty]
  | reply fetched cookies =>
    cases hold <;>
      simp [aimed, World.step, World.act, inputsOf, play, advance, play_turns, Trace.append_empty]
  | setCookies jar =>
    cases hold <;>
      simp [aimed, World.step, World.act, inputsOf, play, advance, play_turns, Trace.append_empty]
  | missed =>
    cases hold <;>
      simp [aimed, World.step, World.act, inputsOf, play_turns, Trace.empty_append]

theorem rounds_eq_play (base : Base) (w : World State Task) (actions : List (Action Event × Bool)) :
    rounds base w actions = play base w (allInputs actions) := by
  induction actions generalizing w with
  | nil => rfl
  | cons round rest ih =>
    obtain ⟨action, hold⟩ := round
    have hstep := step_eq_play base w action hold
    simp only [rounds, allInputs, List.flatMap_cons, play_append, ← hstep, ih]

/-- What holds of all runs of inputs holds of the page in a browser, held or not. -/
theorem browse_eq_run (base : Base) (jar : Jar) (flash : Flash)
    (actions : List (Action Event × Bool)) :
    browse base jar flash actions = run base jar flash (allInputs actions) := by
  simp only [browse, run, rounds_eq_play]

/-- How far signing out has come. -/
inductive Leave where
  | staying
  | pressed
  | sent
  | answered (outcome : Outcome)
  | gone

namespace Leave

/-- The button has been pressed. -/
def begun : Leave → Bool
  | .staying => false
  | _ => true

/-- The request to sign out has been sent. -/
def posted : Leave → Bool
  | .staying | .pressed => false
  | _ => true

/-- Signing out is over, whatever the answer was. -/
def done : Leave → Bool
  | .gone => true
  | _ => false

end Leave

/-- How far a visit has come. -/
inductive Course where
  | asking
  | answered (outcome : Outcome)
  /-- There is no account to show, and the guard has looked since or not. -/
  | dismissed (looked : Bool)
  | shown (current : CurrentUser) (looked : Bool) (leave : Leave)

/-- The answer names an account if it is a success whose body holds one. -/
def loadOf : Outcome → Session.Load
  | .ok response =>
    if 200 ≤ response.status ∧ response.status ≤ 299 then
      match Json.decode CurrentUser.read response.body with
      | .ok current => .ready current
      | .error _ => .signedOut
    else .signedOut
  | .error _ => .signedOut

namespace Course

def next : Course → Input → Course
  | .asking, .reply fetched _ => .answered fetched.outcome
  | .answered outcome, .work =>
    match loadOf outcome with
    | .ready current => .shown current false .staying
    | .signedOut => .dismissed false
  | .dismissed _, .tick => .dismissed true
  | .shown current _ leave, .tick => .shown current true leave
  | .shown current looked .staying, .click => .shown current looked .pressed
  | .shown current looked .pressed, .work => .shown current looked .sent
  | .shown current looked .sent, .reply fetched _ =>
    .shown current looked (.answered fetched.outcome)
  | .shown current looked (.answered _), .work => .shown current looked .gone
  | course, _ => course

/-- How asking for the account has ended, if it has. -/
def ended : Course → Option Session.Load
  | .asking | .answered _ => none
  | .dismissed _ => some .signedOut
  | .shown current _ _ => some (.ready current)

/-- The guard has looked since asking for the account has ended. -/
def looked : Course → Bool
  | .asking | .answered _ => false
  | .dismissed looked => looked
  | .shown _ looked _ => looked

def leave : Course → Leave
  | .shown _ _ leave => leave
  | _ => .staying

def guard : Course → Session.Guard
  | .asking | .answered _ => ⟨.loadingNow, .fresh, false⟩
  | .dismissed looked => ⟨.signedOut, ⟨looked⟩, !looked⟩
  | .shown current looked _ => ⟨.signedIn current, .fresh, !looked⟩

def ready : Course → List (Ready Task)
  | .answered outcome => [.resume .load outcome]
  | .shown _ _ .pressed => [.start .logout]
  | .shown _ _ (.answered outcome) => [.resume .logout outcome]
  | _ => []

def waiting : Course → List Task
  | .asking => [.load]
  | .shown _ _ .sent => [.logout]
  | _ => []

def world (flash : Flash) (jar : Jar) (course : Course) : World State Task :=
  ⟨⟨course.guard, course.leave.begun, flash⟩, jar, course.ready, course.waiting⟩

/-- The requests that an input sends. -/
def sends (base : Base) (jar : Jar) : Course → Input → List Request
  | .shown _ _ .pressed, .work => [buildRequest base jar .post logoutPath none]
  | _, _ => []

/-- Where an input leads: the guard finds nobody, or signing out is over. -/
def leads : Course → Input → List Navigation
  | .dismissed false, .tick => [.to .login]
  | .shown _ _ (.answered _), .work => [.to .login]
  | _, _ => []

end Course

/-- The store after an input. -/
def Input.jarAfter (jar : Jar) : Input → Jar
  | .reply _ cookies => cookies.or jar
  | .setCookies jar => jar
  | _ => jar

theorem loadDashboard_loadOf (outcome : Outcome) (jar : Jar) :
    (loadDashboard.conclude outcome jar).1 = loadOf outcome := by
  rw [loadDashboard_conclude]
  rcases accepted_cases outcome with ⟨failure, rfl, h⟩ | ⟨response, rfl, hs, h⟩ |
    ⟨code, body, rfl, hs, h⟩
  · rw [h]
    rfl
  · have hs' : 200 ≤ response.status ∧ response.status ≤ 299 := hs
    rw [h, loadOf, if_pos hs']
    cases hdecode : Json.decode CurrentUser.read response.body <;>
      simp [bind, Except.bind, decodeBody, hdecode]
  · have hs' : ¬ (200 ≤ code ∧ code ≤ 299) := hs
    rw [h, loadOf, if_neg hs']
    rfl

theorem load_conclude (outcome : Outcome) (jar : Jar) (s : State) :
    ((program.task .load).conclude outcome jar).1 s = .quiet (loaded s (loadOf outcome)) := by
  simp only [program, Exchange.map, Exchange.andThen, loadDashboard_loadOf]

theorem logout_conclude (outcome : Outcome) (jar : Jar) (s : State) :
    ((program.task .logout).conclude outcome jar).1 s =
      { state := s, navigated := [.to .login] } := by
  simp only [program, Exchange.map, Exchange.andThen, signOut_conclude]

/-- One input takes the world of a course to the world of the course gone on. -/
theorem advance_course (base : Base) (flash : Flash) (jar : Jar) (course : Course)
    (input : Input) :
    let s := advance base (course.world flash jar) input
    s.1 = (course.next input).world flash (input.jarAfter jar) ∧
    s.2.sent = course.sends base jar input ∧
    s.2.navigated = course.leads input := by
  -- Only a turn of the tasks that takes in an outcome has to be computed.
  cases course with
  | asking => cases input <;> exact ⟨rfl, rfl, rfl⟩
  | answered outcome =>
    cases input with
    | work =>
      simp only [advance, Course.world, Course.ready, World.runTasks, World.runTask,
        load_conclude, Course.next, Course.sends, Course.leads]
      cases loadOf outcome with
      | ready current => exact ⟨rfl, rfl, rfl⟩
      | signedOut => exact ⟨rfl, rfl, rfl⟩
    | _ => exact ⟨rfl, rfl, rfl⟩
  | dismissed looked =>
    cases looked <;> cases input <;> exact ⟨rfl, rfl, rfl⟩
  | shown current looked leave =>
    cases leave with
    | answered outcome =>
      cases input with
      | work =>
        simp only [advance, Course.world, Course.ready, World.runTasks, World.runTask,
          logout_conclude]
        exact ⟨rfl, rfl, rfl⟩
      | tick => cases looked <;> exact ⟨rfl, rfl, rfl⟩
      | _ => exact ⟨rfl, rfl, rfl⟩
    | _ => cases looked <;> cases input <;> exact ⟨rfl, rfl, rfl⟩

theorem mount_course (base : Base) (jar : Jar) (flash : Flash) :
    World.mount program base jar (mount flash) =
      (Course.asking.world flash jar,
        ⟨[buildRequest base jar .get mePath none], [], 0,
          [⟨.debug, "GET " ++ base.endpoint mePath⟩]⟩) := rfl

/-- The course that inputs lead to on a new page. -/
def courseOf (inputs : List Input) : Course := inputs.foldl Course.next .asking

def Input.outcome? : Input → Option Outcome
  | .reply fetched _ => some fetched.outcome
  | _ => none

/-- The outcomes that have arrived, whether or not one was awaited. -/
def replies (inputs : List Input) : List Outcome := inputs.filterMap Input.outcome?

/-- Where the inputs of one kind have led. -/
def ledBy (kind : Input → Bool) (base : Base) : World State Task → List Input → List Navigation
  | _, [] => []
  | w, input :: rest =>
    let (next, seen) := advance base w input
    (if kind input then seen.navigated else []) ++ ledBy kind base next rest

def Input.isTick : Input → Bool
  | .tick => true
  | _ => false

def Input.isWork : Input → Bool
  | .work => true
  | _ => false

/-- The texts on the page of an account. -/
def accountTexts (current : CurrentUser) : List String :=
  let account := (current.profile.bind Profile.spotifyId).getD ""
  let voice := current.profile.any Profile.voiceCommands
  ["🎵 Spotify Voice Manager", "Welcome, ", current.user.username, "!", "Logout", "Dashboard",
    "👤 User Information", "Username", current.user.username, "Email", current.user.email,
    "Spotify account", if account = "" then "Not linked" else "Linked",
    "Voice commands", if voice then "Enabled" else "Disabled",
    "⚡ Quick Actions", "Playlist management is coming soon.", "View Playlists",
    "Create Playlist"]

theorem linked_eq (profile : Option Profile) :
    profile.any Profile.linked = !decide ((profile.bind Profile.spotifyId).getD "" = "") := by
  cases profile with
  | none => rfl
  | some p =>
    cases h : p.spotifyId with
    | none => simp [Profile.linked, h]
    | some id => simp [Profile.linked, h, bne, Bool.beq_eq_decide_eq]

theorem texts_accountView (current : CurrentUser) (loggingOut : Bool) :
    texts [accountView current loggingOut] = accountTexts current := by
  rw [accountView, linked_eq]
  simp [accountTexts, texts, textsIn, Markup.classed, Markup.plain, fact, inertButton]

namespace Course

/-- The requests to sign out that a course has taken: method, address and body. -/
def posts (base : Base) (course : Course) : List (Method × String × Option String) :=
  if course.leave.posted then [(.post, base.endpoint logoutPath, none)] else []

/-- The departures by the guard. -/
def dismissals : Course → List Navigation
  | .dismissed true => [.to .login]
  | _ => []

/-- The departures by the button. -/
def departures (course : Course) : List Navigation :=
  if course.leave.done then [.to .login] else []

def exits (course : Course) : List Navigation := course.dismissals ++ course.departures

/-- What asking for the account has come to or is bound to come to. -/
def verdict : Course → Option Session.Load
  | .asking => none
  | .answered outcome => some (loadOf outcome)
  | .dismissed _ => some .signedOut
  | .shown current _ _ => some (.ready current)

theorem verdict_of_ended {course : Course} {load : Session.Load} (h : course.ended = some load) :
    course.verdict = some load := by
  cases course with
  | asking => cases h
  | answered outcome => cases h
  | dismissed looked => exact h
  | shown current looked leave => exact h

/-- Of the outcomes only the first one counts for the account. -/
theorem verdict_next (course : Course) (input : Input) :
    (course.next input).verdict = course.verdict.or (input.outcome?.map loadOf) := by
  cases course with
  | asking => cases input <;> rfl
  | answered outcome =>
    cases input with
    | work =>
      simp only [next, verdict]
      cases loadOf outcome with
      | ready current => rfl
      | signedOut => rfl
    | _ => rfl
  | dismissed looked => cases input <;> rfl
  | shown current looked leave => cases leave <;> cases input <;> rfl

/-- What one input adds to the requests and to the departures of a course. -/
theorem next_adds (base : Base) (jar : Jar) (course : Course) (input : Input) :
    let c := course.next input
    c.posts base =
      course.posts base ++ (course.sends base jar input).map (fun r => (r.method, r.url, r.body)) ∧
    c.dismissals = course.dismissals ++ (if input.isTick then course.leads input else []) ∧
    c.departures = course.departures ++ (if input.isWork then course.leads input else []) ∧
    c.exits = course.exits ++ course.leads input := by
  cases course with
  | asking => cases input <;> exact ⟨rfl, rfl, rfl, rfl⟩
  | answered outcome =>
    cases input with
    | work =>
      simp only [next]
      cases loadOf outcome with
      | ready current => exact ⟨rfl, rfl, rfl, rfl⟩
      | signedOut => exact ⟨rfl, rfl, rfl, rfl⟩
    | _ => exact ⟨rfl, rfl, rfl, rfl⟩
  | dismissed looked => cases looked <;> cases input <;> exact ⟨rfl, rfl, rfl, rfl⟩
  | shown current looked leave => cases leave <;> cases input <;> exact ⟨rfl, rfl, rfl, rfl⟩

theorem pending_iff (course : Course) :
    course.ended = none ↔
      course.waiting = [.load] ∨ ∃ outcome, course.ready = [.resume .load outcome] := by
  cases course with
  | asking => simp [ended, waiting]
  | answered outcome => simp [ended, ready]
  | dismissed looked => simp [ended, waiting, ready]
  | shown current looked leave => cases leave <;> simp [ended, waiting, ready]

theorem dismissals_eq (course : Course) :
    course.dismissals =
      if course.ended = some .signedOut ∧ course.looked then [.to .login] else [] := by
  cases course with
  | asking => rfl
  | answered outcome => rfl
  | dismissed looked => cases looked <;> rfl
  | shown current looked leave => simp [dismissals, ended]

theorem departures_eq (course : Course) :
    course.departures =
      if course.leave.posted ∧ course.waiting = [] ∧ course.ready = [] then [.to .login]
      else [] := by
  cases course with
  | shown current looked leave =>
    cases leave <;> simp [departures, Course.leave, Leave.done, Leave.posted, waiting, ready]
  | _ => rfl

theorem exits_once (course : Course) : course.exits = [] ∨ course.exits = [.to .login] := by
  cases course with
  | dismissed looked =>
    cases looked with
    | false => exact Or.inl rfl
    | true => exact Or.inr rfl
  | shown current looked leave =>
    cases leave with
    | gone => exact Or.inr rfl
    | _ => exact Or.inl rfl
  | _ => exact Or.inl rfl

theorem dismissed_of_ended {course : Course} (h : course.ended = some .signedOut) :
    course = .dismissed course.looked := by
  cases course with
  | dismissed looked => rfl
  | _ => cases h

theorem hasLogout_iff (course : Course) (flash : Flash) (jar : Jar) :
    hasLogout (course.world flash jar).page = true ↔
      ∃ current, course.ended = some (.ready current) := by
  cases course with
  | shown current looked leave => simp [hasLogout, world, guard, Session.State.signedIn, ended]
  | _ =>
    simp [hasLogout, world, guard, Session.State.loadingNow, Session.State.signedOut, ended]

theorem view_eq (course : Course) (flash : Flash) (jar : Jar) :
    view (course.world flash jar).page =
      match course.ended with
      | none => [waitingView true]
      | some .signedOut => [waitingView false]
      | some (.ready current) => [accountView current course.leave.begun] := by
  cases course with
  | asking => rfl
  | answered outcome => rfl
  | dismissed looked => rfl
  | shown current looked leave => rfl

theorem texts_view (course : Course) (flash : Flash) (jar : Jar) :
    texts (view (course.world flash jar).page) =
      match course.ended with
      | none => ["Loading..."]
      | some .signedOut => ["Redirecting to login..."]
      | some (.ready current) => accountTexts current := by
  rw [view_eq]
  cases course with
  | asking => rfl
  | answered outcome => rfl
  | dismissed looked => rfl
  | shown current looked leave => exact texts_accountView current leave.begun

theorem buttons_view (course : Course) (flash : Flash) (jar : Jar) :
    buttons (view (course.world flash jar).page) =
      match course.ended with
      | some (.ready _) =>
        [("Logout", course.leave.begun), ("View Playlists", true), ("Create Playlist", true)]
      | _ => [] := by
  rw [view_eq]
  cases course with
  | asking => rfl
  | answered outcome => rfl
  | dismissed looked => rfl
  | shown current looked leave => cases h : leave.begun <;> simp [ended, Course.leave, h] <;> rfl

theorem foldl_verdict (course : Course) (inputs : List Input) :
    (inputs.foldl next course).verdict =
      course.verdict.or ((replies inputs).head?.map loadOf) := by
  induction inputs generalizing course with
  | nil => simp [replies]
  | cons input rest ih =>
    simp only [List.foldl_cons, ih, verdict_next, Option.or_assoc]
    cases h : input.outcome? with
    | none => simp [replies, h]
    | some outcome => simp [replies, h]

end Course

theorem play_navigated (base : Base) (w : World State Task) (inputs : List Input) :
    (play base w inputs).2.navigated = ledBy (fun _ => true) base w inputs := by
  induction inputs generalizing w with
  | nil => rfl
  | cons input rest ih => simp [play, ledBy, Trace.append, ih]

section Run

variable (base : Base) (flash : Flash) (jar : Jar) (course : Course) (inputs : List Input)

/-- The page keeps to the course. -/
theorem play_world :
    (play base (course.world flash jar) inputs).1 =
      (inputs.foldl Course.next course).world flash (inputs.foldl Input.jarAfter jar) := by
  induction inputs generalizing course jar with
  | nil => rfl
  | cons input rest ih =>
    simp only [play, (advance_course base flash jar course input).1, ih, List.foldl_cons]

theorem play_posts :
    course.posts base ++
        (play base (course.world flash jar) inputs).2.sent.map
          (fun r => (r.method, r.url, r.body)) =
      (inputs.foldl Course.next course).posts base := by
  induction inputs generalizing course jar with
  | nil => simp [play, Trace.empty]
  | cons input rest ih =>
    obtain ⟨hw, hsent, -⟩ := advance_course base flash jar course input
    have hadds := (Course.next_adds base jar course input).1
    simp only [play, hw, hsent, Trace.append, List.map_append, List.foldl_cons]
    rw [← ih (input.jarAfter jar), hadds, List.append_assoc]

/-- What is told of the departures of a course is where the page has led. -/
theorem ledBy_world {kind : Input → Bool} {told : Course → List Navigation}
    (h : ∀ c i, told (c.next i) = told c ++ (if kind i then c.leads i else [])) :
    told course ++ ledBy kind base (course.world flash jar) inputs =
      told (inputs.foldl Course.next course) := by
  induction inputs generalizing course jar with
  | nil => simp [ledBy]
  | cons input rest ih =>
    obtain ⟨hw, -, hled⟩ := advance_course base flash jar course input
    simp only [ledBy, hw, hled, List.foldl_cons]
    rw [← ih (input.jarAfter jar), h, List.append_assoc]

end Run

/-- Where the inputs of one kind have led since the mounting. -/
def exitsBy (kind : Input → Bool) (base : Base) (jar : Jar) (flash : Flash)
    (inputs : List Input) : List Navigation :=
  ledBy kind base (World.mount program base jar (mount flash)).1 inputs

/-- What holds at every moment of a run: of the world `w` and of what was seen
up to then, `t`, after the inputs. -/
structure Orderly (base : Base) (jar : Jar) (flash : Flash) (inputs : List Input)
    (w : World State Task) (t : Trace) : Prop where
  /-- Asking for the account ends when its answer is taken in, which is the first
  outcome that has arrived. -/
  pending : (courseOf inputs).ended = none ↔
    w.waiting = [.load] ∨ ∃ outcome, w.ready = [.resume .load outcome]
  ended : ∀ load, (courseOf inputs).ended = some load →
    (replies inputs).head?.map loadOf = some load
  /-- One request for the account, and one at most to sign out. -/
  sent : t.sent.map (fun r => (r.method, r.url, r.body)) =
    (.get, base.address ++ "/auth/me/", none) ::
      if (courseOf inputs).leave.posted then [(.post, base.address ++ "/auth/logout/", none)]
      else []
  /-- The guard leaves when asking has ended without an account and it has looked,
  and then nobody signs out. -/
  dismissed : exitsBy Input.isTick base jar flash inputs =
    if (courseOf inputs).ended = some .signedOut ∧ (courseOf inputs).looked
    then [⟨"/login", false⟩] else []
  dismissal_due : (courseOf inputs).ended = some .signedOut → (courseOf inputs).looked = false →
    (advance base w .tick).2.navigated = [⟨"/login", false⟩]
  stays : (courseOf inputs).ended = some .signedOut → (courseOf inputs).leave = .staying
  /-- Signing out leaves when its request has been sent and is over, whatever the
  answer was. -/
  departed : exitsBy Input.isWork base jar flash inputs =
    if (courseOf inputs).leave.posted ∧ w.waiting = [] ∧ w.ready = []
    then [⟨"/login", false⟩] else []
  /-- There are no other ways out, and only one of these is taken. -/
  navigated : t.navigated =
    exitsBy Input.isTick base jar flash inputs ++
      exitsBy Input.isWork base jar flash inputs
  once : t.navigated = [] ∨ t.navigated = [⟨"/login", false⟩]
  button : hasLogout w.page = true ↔ ∃ current, (courseOf inputs).ended = some (.ready current)
  shown : texts (view w.page) =
    match (courseOf inputs).ended with
    | none => ["Loading..."]
    | some .signedOut => ["Redirecting to login..."]
    | some (.ready current) => accountTexts current
  /-- Signing out is offered beside an account, until it has begun. -/
  offered : buttons (view w.page) =
    match (courseOf inputs).ended with
    | some (.ready _) =>
      [("Logout", (courseOf inputs).leave.begun), ("View Playlists", true),
        ("Create Playlist", true)]
    | _ => []

theorem run_orderly (base : Base) (jar : Jar) (flash : Flash) (inputs : List Input) :
    Orderly base jar flash inputs (run base jar flash inputs).1 (run base jar flash inputs).2 := by
  have hworld : (run base jar flash inputs).1 =
      (courseOf inputs).world flash (inputs.foldl Input.jarAfter jar) :=
    play_world base flash jar .asking inputs
  have htick : exitsBy Input.isTick base jar flash inputs = (courseOf inputs).dismissals :=
    ledBy_world base flash jar .asking inputs fun c i => (c.next_adds base jar i).2.1
  have hwork : exitsBy Input.isWork base jar flash inputs = (courseOf inputs).departures :=
    ledBy_world base flash jar .asking inputs fun c i => (c.next_adds base jar i).2.2.1
  have hexits : (run base jar flash inputs).2.navigated = (courseOf inputs).exits := by
    have hall : Course.asking.exits ++
        ledBy (fun _ => true) base (Course.asking.world flash jar) inputs =
          (courseOf inputs).exits :=
      ledBy_world base flash jar .asking inputs fun c i => by
        simpa only [if_true] using (c.next_adds base jar i).2.2.2
    simp only [run, mount_course, Trace.append, play_navigated]
    exact hall
  rw [hworld]
  generalize inputs.foldl Input.jarAfter jar = last
  refine {
    pending := (courseOf inputs).pending_iff
    ended := ?_
    sent := ?_
    dismissed := htick.trans (courseOf inputs).dismissals_eq
    dismissal_due := ?_
    stays := ?_
    departed := hwork.trans (courseOf inputs).departures_eq
    navigated := ?_
    once := ?_
    button := (courseOf inputs).hasLogout_iff flash last
    shown := (courseOf inputs).texts_view flash last
    offered := (courseOf inputs).buttons_view flash last
  }
  · intro load hended
    have hfirst := Course.foldl_verdict .asking inputs
    rw [← courseOf, Course.verdict_of_ended hended] at hfirst
    exact hfirst.symm
  · have hposts := play_posts base flash jar .asking inputs
    rw [← endpoint_me, ← endpoint_logout]
    simp only [run, mount_course, Trace.append, List.map_append]
    exact congrArg (List.cons _) hposts
  · intro hended hlooked
    rw [(advance_course base flash last _ .tick).2.2, Course.dismissed_of_ended hended, hlooked]
    rfl
  · intro hended
    rw [Course.dismissed_of_ended hended]
    rfl
  · rw [hexits, htick, hwork]
    rfl
  · rw [hexits]
    exact (courseOf inputs).exits_once

/-- Every run of the page is orderly, and with these the runs in a browser. -/
theorem dashboard_run_orderly (base : Base) (jar : Jar) (flash : Flash) :
    (∀ inputs, Orderly base jar flash inputs (run base jar flash inputs).1
      (run base jar flash inputs).2) ∧
    ∀ actions, Orderly base jar flash (allInputs actions) (browse base jar flash actions).1
      (browse base jar flash actions).2 := by
  refine ⟨run_orderly base jar flash, ?_⟩
  intro actions
  rw [browse_eq_run]
  exact run_orderly base jar flash _

end AccountPortal.Page.Dashboard
