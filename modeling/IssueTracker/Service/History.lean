import IssueTracker.Service.App

/-! Histories: what happens to a service, one event after another. Users, tokens,
projects, members and targets are entered by hand; all else comes from requests
and from the worker. A history starts from a service without any rows. -/

namespace IssueTracker

inductive Event where
  | addUser (u : User)
  | addToken (token : String) (user : Uuid) (now : Timestamp)
  | addProject (p : Project)
  | addMember (m : Member)
  | addTarget (id project : Uuid) (name : String) (now : Timestamp)
  /-- A whole request, with what is drawn for it and the failures its steps meet. -/
  | request (draw : Draw) (faults : Faults) (r : Request)
  /-- The worker recomputes the summary of the oldest target in the queue, each of its
  attempts with failures of its own. -/
  | work (now : Timestamp) (faults : Nat → Faults)

namespace Service

/-- Carries out a statement by hand. -/
def carryOut {α : Type} (s : Service) (q : Query α) : Service :=
  { s with store := (Query.pooled q s.store).2 }

def after (config : Config) (s : Service) : Event → Service
  | .addUser u => s.carryOut (Store.addUser u)
  | .addToken token user now => s.carryOut (Store.addToken (tokenRow token user now))
  | .addProject p => s.carryOut (Store.addProject p)
  | .addMember m => s.carryOut (Store.addMember m)
  | .addTarget id project name now => s.carryOut (Store.addTarget (Target.start id project name now))
  | .request draw faults r => (s.handle config draw faults r).2
  | .work now faults => s.work config now faults

/-- The service after a history. -/
def run (config : Config) (es : List Event) : Service :=
  es.foldl (after config) {}

/-- The response to a request that comes after a history. -/
def respond (config : Config) (es : List Event) (draw : Draw) (r : Request) : Response :=
  ((run config es).handle config draw Faults.none r).1

theorem run_append (config : Config) (es fs : List Event) :
    run config (es ++ fs) = fs.foldl (after config) (run config es) := by
  simp [run]

/-- What holds at first and is kept by every event holds after every history. -/
theorem run_induction {config : Config} {P : Service → Prop} (init : P {})
    (step : ∀ s e, P s → P (s.after config e)) (es : List Event) : P (run config es) := by
  have fold : ∀ (es : List Event) (s : Service), P s → P (es.foldl (after config) s) := by
    intro es
    induction es with
    | nil => exact fun s hs => hs
    | cons e es ih => exact fun s hs => ih _ (step s e hs)
  exact fold es {} init

end Service
end IssueTracker
