import IssueTracker.Uuid

/-! The backlog of recomputations, as many parties see it at once. Submitters put
jobs in, one worker takes them out, and waiters want to see a moment at which
nothing is pending. Every step of a party is atomic, and steps of different
parties come in any order. The counter is raised before a job is sent and lowered
when the job is over; a waiter registers before it looks at the counter, so that a
wake-up between the two is not lost. -/

namespace IssueTracker
namespace Backlog

/-- A submission under way. -/
inductive Submission where
  /-- Counted, not yet sent. -/
  | counted (job : Uuid)
  /-- There is no worker to send to; the job is still counted. -/
  | refused
  /-- Lowered the counter to zero, and has not told the waiters. -/
  | telling
  deriving DecidableEq

/-- What the worker is doing. -/
inductive Worker where
  | free
  | busy (job : Uuid)
  /-- The job is processed and still counted. -/
  | over
  /-- Lowered the counter to zero, and has not told the waiters. -/
  | telling
  deriving DecidableEq

/-- Somebody who waits until nothing is pending; `woken` once told so. -/
inductive Waiter where
  | arrived
  | registered (woken : Bool)
  | parked (woken : Bool)
  | returned
  deriving DecidableEq

structure State where
  pending : Nat := 0
  submissions : List Submission := []
  /-- Jobs sent and not yet taken, oldest first. -/
  channel : List Uuid := []
  worker : Worker := .free
  /-- The worker takes no more steps. -/
  gone : Bool := false
  waiters : List Waiter := []
  /-- All jobs counted so far. -/
  counted : List Uuid := []
  /-- All jobs sent so far, in order. -/
  sent : List Uuid := []
  /-- All jobs processed so far, in order. -/
  processed : List Uuid := []
  /-- All jobs that were refused. -/
  dropped : List Uuid := []

/-- A step: of a new submission, of the submission or the waiter at an index, or of
the worker. -/
inductive Step where
  | count (job : Uuid)
  | send (i : Nat)
  | settle (i : Nat)
  | tell (i : Nat)
  | take
  | process
  | lower
  | announce
  | leave
  | arrive
  | register (i : Nat)
  | look (i : Nat)
  | resume (i : Nat)
  deriving DecidableEq

namespace Waiter

def wake : Waiter → Waiter
  | .registered _ => .registered true
  | .parked _ => .parked true
  | w => w

end Waiter

namespace State

def wakeAll (s : State) : State :=
  { s with waiters := s.waiters.map Waiter.wake }

/-- The state after a step, if the step is possible. -/
def next? (s : State) : Step → Option State
  | .count job =>
    some { s with
      pending := s.pending + 1
      submissions := s.submissions ++ [.counted job]
      counted := s.counted ++ [job] }
  | .send i =>
    match s.submissions[i]? with
    | some (.counted job) =>
      if s.gone then
        some { s with
          submissions := s.submissions.set i .refused
          dropped := s.dropped ++ [job] }
      else
        some { s with
          submissions := s.submissions.eraseIdx i
          channel := s.channel ++ [job]
          sent := s.sent ++ [job] }
    | _ => none
  | .settle i =>
    match s.submissions[i]? with
    | some .refused =>
      some { s with
        pending := s.pending - 1
        submissions :=
          if s.pending = 1 then s.submissions.set i .telling else s.submissions.eraseIdx i }
    | _ => none
  | .tell i =>
    match s.submissions[i]? with
    | some .telling => some { s with submissions := s.submissions.eraseIdx i }.wakeAll
    | _ => none
  | .take =>
    match s.gone, s.worker, s.channel with
    | false, .free, job :: rest => some { s with worker := .busy job, channel := rest }
    | _, _, _ => none
  | .process =>
    match s.gone, s.worker with
    | false, .busy job => some { s with worker := .over, processed := s.processed ++ [job] }
    | _, _ => none
  | .lower =>
    match s.worker with
    | .over =>
      some { s with
        pending := s.pending - 1
        worker := if s.pending = 1 then .telling else .free }
    | _ => none
  | .announce =>
    match s.worker with
    | .telling => some { s with worker := .free }.wakeAll
    | _ => none
  | .leave =>
    -- between a job's end and the waiters' being told nothing makes the worker stop
    match s.worker with
    | .free | .busy _ => some { s with gone := true }
    | _ => none
  | .arrive => some { s with waiters := s.waiters ++ [.arrived] }
  | .register i =>
    match s.waiters[i]? with
    | some .arrived => some { s with waiters := s.waiters.set i (.registered false) }
    | _ => none
  | .look i =>
    match s.waiters[i]? with
    | some (.registered woken) =>
      some { s with
        waiters := s.waiters.set i (if s.pending = 0 then .returned else .parked woken) }
    | _ => none
  | .resume i =>
    match s.waiters[i]? with
    | some (.parked true) => some { s with waiters := s.waiters.set i .arrived }
    | _ => none

/-- The state after some steps, if each of them is possible in its turn. -/
def run? (s : State) : List Step → Option State
  | [] => some s
  | e :: es => (s.next? e).bind fun t => t.run? es

end State

/-- The states that can be reached when nothing has happened yet. -/
def Reachable (s : State) : Prop :=
  ∃ es, State.run? {} es = some s

end Backlog
end IssueTracker
