import AccountPortal.Backend.Operation

/-!
Sessions: a client on a cookie store carries out one operation after another. A
`Wire` carries requests to the backend and brings back outcomes; it has a state
of its own, and it is the only one besides the visitor to change the store.
-/

namespace AccountPortal.Backend

open Http Cookie

/-- Sends a request: the outcome, the store afterwards, and the new state. -/
abbrev Wire (σ : Type) := σ → Request → Jar → Outcome × Jar × σ

structure Step where
  answer : Answer
  sent : List Request
  log : List LogLine

/-- Carries out an operation. -/
def Operation.run {σ : Type} (op : Operation) (base : Base) (wire : Wire σ) (state : σ) (jar : Jar) :
    Step × Jar × σ :=
  match op.plan with
  | .immediate answer => (⟨answer base jar, [], []⟩, jar, state)
  | .exchange x =>
    let reply := wire state (x.request base jar) jar
    let report := x.perform base jar fun _ => (reply.1, reply.2.1)
    (⟨report.result, [report.request], report.log⟩, report.jar, reply.2.2)

structure Reply where
  outcome : Outcome
  setCookies : Option String

def answering (reply : Reply) : Wire Unit := fun _ _ jar =>
  (reply.outcome, reply.setCookies.or jar, ())

/-- A wire without any connection, as there is none while a page is rendered. -/
def unconnected : Wire Unit := fun _ _ jar => (.error .unavailable, jar, ())

structure Recorder where
  requests : List Request
  outcomes : List Outcome
  setCookies : Option String

namespace Recorder

def start (outcomes : List Outcome) (setCookies : Option String) : Recorder :=
  ⟨[], outcomes, setCookies⟩

def exhausted : Outcome := .error (.network "no scripted reply")

def wire : Wire Recorder := fun r request jar =>
  let noted := r.requests ++ [request]
  let jar := r.setCookies.or jar
  match r.outcomes with
  | [] => (exhausted, jar, { r with requests := noted })
  | outcome :: rest => (outcome, jar, { r with requests := noted, outcomes := rest })

end Recorder

end AccountPortal.Backend
