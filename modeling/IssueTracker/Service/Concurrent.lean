import IssueTracker.Plan.Turns
import IssueTracker.Service.App

/-! Requests that are answered at the same time. Their plans take turns with each
other and with the worker; a request whose plan is done submits its target and has
its response. -/

namespace IssueTracker

/-- Whose turn it is. -/
inductive Turn where
  | request (i : Nat)
  | work (now : Timestamp)

structure Concurrent where
  service : Service
  plans : List (Plan Service.Outcome)

namespace Concurrent

/-- The requests at the start, each with what is drawn for it. -/
def start (config : Config) (s : Service) (rs : List (Draw × Request)) : Concurrent :=
  ⟨s, rs.map fun r => Service.answer config r.1 r.2⟩

def next (config : Config) (c : Concurrent) : Turn → Concurrent
  | .work now => { c with service := c.service.work config now fun _ => Faults.none }
  | .request i =>
    match c.plans[i]? with
    | none => c
    | some (.done _) => c
    | some p =>
      let (p', store) := p.turn c.service.store
      let submitted := p'.result?.bind Service.Outcome.submit
      ⟨⟨store, c.service.queue ++ submitted.toList⟩, c.plans.set i p'⟩

def run (config : Config) (c : Concurrent) (ts : List Turn) : Concurrent :=
  ts.foldl (next config) c

end Concurrent
end IssueTracker
