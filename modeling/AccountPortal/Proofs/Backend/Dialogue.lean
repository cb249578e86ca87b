import AccountPortal.Backend.Session

/-!
Dialogues of a client with the backend: operations one after another on one
cookie store, each with the reply that its request would meet, and changes of
the store by somebody else in between. A deed is an operation as it took place.
Every deed of a dialogue is one performed on the store that it found, and an
operation either carries out one exchange or none.
-/
namespace AccountPortal.Backend.Dialogue

open Http Cookie

inductive Move where
  | operation (op : Operation) (reply : Reply)
  | setCookies (jar : Jar)

structure Deed where
  op : Operation
  reply : Reply
  /-- The store that the operation found. -/
  before : Jar
  step : Step
  /-- The store that it left. -/
  after : Jar

def perform (base : Base) (jar : Jar) (op : Operation) (reply : Reply) : Deed :=
  let (step, after, _) := op.run base (answering reply) () jar
  ⟨op, reply, jar, step, after⟩

def play (base : Base) : Jar → List Move → List Deed × Jar
  | jar, [] => ([], jar)
  | jar, .operation op reply :: rest =>
    let deed := perform base jar op reply
    let (deeds, last) := play base deed.after rest
    (deed :: deeds, last)
  | _, .setCookies jar :: rest => play base jar rest

def built : Answer → List Request
  | .request r => [r]
  | _ => []

/-- The requests of a deed, whether sent or only built. -/
def Deed.requests (d : Deed) : List Request := d.step.sent ++ built d.step.answer

theorem play_append (base : Base) (jar : Jar) (left right : List Move) :
    play base jar (left ++ right) =
      ((play base jar left).1 ++ (play base (play base jar left).2 right).1,
        (play base (play base jar left).2 right).2) := by
  induction left generalizing jar with
  | nil => rfl
  | cons move rest ih =>
    cases move with
    | operation op reply => simp only [List.cons_append, play, ih]
    | setCookies jar' => simp only [List.cons_append, play, ih]

/-- Nothing is a deed of a dialogue but what is performed on the store it found. -/
theorem eq_perform_of_mem (base : Base) (jar : Jar) (moves : List Move) (d : Deed)
    (h : d ∈ (play base jar moves).1) : d = perform base d.before d.op d.reply := by
  induction moves generalizing jar with
  | nil => simp [play] at h
  | cons move rest ih =>
    cases move with
    | operation op reply =>
      simp only [play, List.mem_cons] at h
      rcases h with rfl | h
      · rfl
      · exact ih _ h
    | setCookies jar' => exact ih jar' h

/-- An operation stands for one exchange, whose answer holds no request, or it
is answered at once, and then a request in the answer is built on the store. -/
theorem plan_cases (op : Operation) :
    (∃ x, op.plan = .exchange x ∧
      ∀ outcome jar, built (x.conclude outcome jar).1 = []) ∨
    (∃ answer, op.plan = .immediate answer ∧
      ∀ base jar, ∀ r ∈ built (answer base jar),
        ∃ method path body, r = buildRequest base jar method path body) := by
  cases op with
  | buildRequest method path body =>
    refine Or.inr ⟨_, rfl, ?_⟩
    intro base jar r hr
    exact ⟨method, path, body, List.mem_singleton.mp hr⟩
  | upload kind path body expected =>
    cases body with
    | none =>
      refine Or.inr ⟨_, rfl, ?_⟩
      intro base jar r hr
      simp [built] at hr
    | some v => exact Or.inl ⟨_, rfl, fun _ _ => rfl⟩
  | signup form =>
    cases h : form.validate with
    | ok registration =>
      refine Or.inl ⟨(registerAccount registration).map .signup, ?_, fun _ _ => rfl⟩
      simp only [Operation.plan, h]
    | error rule =>
      refine Or.inr ⟨fun _ _ => .violated rule, ?_, ?_⟩
      · simp only [Operation.plan, h]
      · intro base jar r hr
        simp [built] at hr
  | _ => exact Or.inl ⟨_, rfl, fun _ _ => rfl⟩

section Perform

variable (base : Base) (jar : Jar) (op : Operation) (reply : Reply)

theorem perform_exchange {x : Exchange Answer} (h : op.plan = .exchange x) :
    let after := reply.setCookies.or jar
    let end_ := x.conclude reply.outcome after
    perform base jar op reply =
      ⟨op, reply, jar, ⟨end_.1, [x.request base jar], x.announcement base :: end_.2⟩, after⟩ := by
  simp only [perform, Operation.run, h, Exchange.perform, answering]

theorem perform_immediate {answer : Base → Jar → Answer} (h : op.plan = .immediate answer) :
    perform base jar op reply = ⟨op, reply, jar, ⟨answer base jar, [], []⟩, jar⟩ := by
  simp only [perform, Operation.run, h]

/-- A reply is met only by a request that is sent, and its cookies come after. -/
theorem perform_after :
    (perform base jar op reply).after =
      if (perform base jar op reply).step.sent = [] then jar
      else reply.setCookies.or jar := by
  rcases plan_cases op with ⟨x, h, _⟩ | ⟨answer, h, _⟩
  · simp [perform_exchange base jar op reply h]
  · simp [perform_immediate base jar op reply h]

/-- What is sent or built is known before any reply. -/
theorem perform_requests_reply (other : Reply) :
    (perform base jar op other).requests = (perform base jar op reply).requests := by
  rcases plan_cases op with ⟨x, h, hbuilt⟩ | ⟨answer, h, _⟩
  · simp only [Deed.requests, perform_exchange base jar op _ h, hbuilt]
  · simp only [Deed.requests, perform_immediate base jar op _ h]

/-- Every request of an operation is built on the store that the operation found. -/
theorem built_of_mem_requests {r : Request} (hr : r ∈ (perform base jar op reply).requests) :
    ∃ method path body, r = buildRequest base jar method path body := by
  rcases plan_cases op with ⟨x, h, hbuilt⟩ | ⟨answer, h, hbuilt⟩
  · rw [Deed.requests, perform_exchange base jar op reply h, hbuilt, List.append_nil] at hr
    exact ⟨x.method, x.path, x.body, List.mem_singleton.mp hr⟩
  · rw [Deed.requests, perform_immediate base jar op reply h, List.nil_append] at hr
    exact hbuilt base jar r hr

end Perform

end AccountPortal.Backend.Dialogue
