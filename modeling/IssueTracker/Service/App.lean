import IssueTracker.Recompute
import IssueTracker.Service.Operations

/-! The service as a whole: a request is routed, its caller identified, and its
operation run on the store; a target that the reply submits joins the queue of
summaries to recompute. A path that is not the service's own is not found,
whoever asks. Every response says which version answered which request. -/

namespace IssueTracker

structure Service where
  store : Store := {}
  /-- The targets whose summaries are to be recomputed, oldest first. -/
  queue : List Uuid := []
  deriving DecidableEq

namespace Service

def version : String := "0.1.0"

/-- A response, and the target whose summary is to be recomputed. -/
structure Outcome where
  response : Response
  submit : Option Uuid := none

/-- The handler that a caller's request is for: callers who are not known are
refused before anything else, methods without a handler after. -/
def dispatch (config : Config) (draw : Draw) (r : Request) (d : Dispatch Handler) :
    Action Outcome := do
  match ← authenticate r with
  | none => throw Refusal.unauthorized
  | some user =>
    match d.route.handler? r.method with
    | none => return ⟨Response.of 405 .empty, none⟩
    | some handler =>
      let reply ← handler ⟨config, draw, r, d.captures, user⟩
      return ⟨reply.response, reply.submit⟩

/-- On a route without a handler for the method, every response names those it has. -/
def withAllow (d : Dispatch Handler) (r : Request) (response : Response) : Response :=
  match d.route.handler? r.method with
  | some _ => response
  | none => { response with headers := ("allow", d.route.allowText) :: response.headers }

/-- The answer before the headers that every response has. -/
def answer (config : Config) (draw : Draw) (r : Request) : Plan Outcome :=
  match issues.routes.find? r.uri.path with
  | none => pure ⟨Response.of 404 .empty, none⟩
  | some d => do
    match ← (dispatch config draw r d).run with
    | .ok o => return { o with response := withAllow d r o.response }
    | .error e => return ⟨withAllow d r e.response, none⟩

/-- Adds the headers that every response has, and drops the body of an answer to `HEAD`. -/
def stamp (draw : Draw) (r : Request) (response : Response) : Response :=
  let response := if r.method == "HEAD" then response.withoutBody else response
  (response.withHeader "x-server-version" version).withHeader "x-request-id"
    ((r.header? "x-request-id").getD draw.requestId.text)

/-- Answers one request. -/
def handle (config : Config) (draw : Draw) (faults : Faults) (r : Request) (s : Service) :
    Response × Service :=
  let (outcome, store) := (answer config draw r).run faults s.store
  (stamp draw r outcome.response, ⟨store, s.queue ++ outcome.submit.toList⟩)

/-- Recomputes the summary of the oldest target in the queue. -/
def work (config : Config) (now : Timestamp) (faults : Nat → Faults) (s : Service) : Service :=
  match s.queue with
  | [] => s
  | t :: rest => ⟨(Recompute.run t now config.attempts faults s.store).2, rest⟩

end Service
end IssueTracker
