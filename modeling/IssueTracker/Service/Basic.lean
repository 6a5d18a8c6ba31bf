import IssueTracker.Config
import IssueTracker.Http.Bearer
import IssueTracker.Http.MediaType
import IssueTracker.Plan
import IssueTracker.Route.Resource

/-! What operations are made of. An action is a plan that may end early with a
refusal; a reply may ask for the summary of a target to be recomputed. All that
is not determined by the request and the store is drawn beforehand: new ids and
readings of the clock. -/

namespace IssueTracker

/-- A request that is turned down: a status and a message for the caller. -/
structure Refusal where
  status : Nat
  message : String
  deriving DecidableEq

namespace Refusal

def badRequest (message : String) : Refusal := ⟨400, message⟩

def notFound : Refusal := ⟨404, "not found"⟩

def storage : Refusal := ⟨500, "database error"⟩

def unauthorized : Refusal := ⟨401, "authorization required"⟩

def forbidden : Refusal := ⟨403, "you do not have permission for this project"⟩

def wrongEntity : Refusal := badRequest "wrong entity"

/-- A statement that changes the store failed. What the schema rejects is the
caller's doing; anything else is reported by the fallback. -/
def ofWrite (fallback : String) (e : DbError) : Refusal :=
  if e.isDuplicate then ⟨409, "resource already exists"⟩
  else if e = .foreignKey then badRequest "related resource not found"
  else ⟨500, fallback⟩

def toJson (r : Refusal) : Json :=
  Record.object [("error", Codec.text.encode r.message)]

def response (r : Refusal) : Response :=
  Response.of r.status (.json r.toJson)

end Refusal

/-- New ids and readings of the clock for one request. -/
structure Draw where
  id : Uuid
  requestId : Uuid
  now : Timestamp
  /-- A later reading, for the time of a report. -/
  reported : Timestamp

structure Context where
  config : Config
  draw : Draw
  request : Request
  captures : List Capture
  user : User

structure Reply where
  status : Nat
  body : Option Json
  /-- The target whose summary is to be recomputed. -/
  submit : Option Uuid := none

namespace Reply

def response (r : Reply) : Response :=
  Response.of r.status (match r.body with
    | some v => .json v
    | none => .empty)

end Reply

abbrev Action := ExceptT Refusal Plan

namespace Action

variable {α : Type}

/-- A statement whose failure is refused. -/
def ask (q : Query α) (refuse : DbError → Refusal) : Action α :=
  ExceptT.mk do
    match ← Plan.ask q with
    | .ok a => return .ok a
    | .error e => return .error (refuse e)

/-- A statement that reads, or leases a connection. -/
def fetch (q : Query α) : Action α :=
  ask q fun _ => .storage

def begin : Action Unit :=
  ExceptT.mk do
    match ← Plan.begin with
    | .ok () => return .ok ()
    | .error _ => return .error .storage

def commit (refuse : DbError → Refusal) : Action Unit :=
  ExceptT.mk do
    match ← Plan.finish with
    | .ok () => return .ok ()
    | .error e => return .error (refuse e)

/-- The value, or a refusal when there is none. -/
def require (o : Option α) (r : Refusal) : Action α :=
  match o with
  | some a => pure a
  | none => throw r

end Action

abbrev Handler := Context → Action Reply

end IssueTracker
