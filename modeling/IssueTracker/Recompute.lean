import IssueTracker.Plan
import IssueTracker.Store.Summaries

/-! Recomputing the summary of a target. The open issues are counted and the
counts written in one transaction, which is tried again when the store fails; a
target that is not there is left alone. -/

namespace IssueTracker
namespace Recompute

inductive Error where
  | notFound
  /-- The connection, or a statement on the target, failed. -/
  | database (e : DbError)
  /-- The issues could not be counted. -/
  | issues (e : DbError)
  deriving DecidableEq

/-- Counts the open issues of a target and writes its summary. -/
def summarize (target : Uuid) (now : Timestamp) : ExceptT Error Plan Summary :=
  ExceptT.mk do
    match ← Plan.ask (Store.openCounts target) with
    | .error e => return .error (.issues e)
    | .ok counts =>
      let summary := Summary.ofCounts counts
      match ← Plan.ask (Store.writeSummary target summary now) with
      | .error e => return .error (.database e)
      | .ok false => return .error .notFound
      | .ok true => return .ok summary

/-- A step of the connection itself. -/
def onConnection {α : Type} (p : Plan (Except DbError α)) : ExceptT Error Plan α :=
  ExceptT.mk do return (← p).mapError .database

/-- One attempt, in a transaction. -/
def attempt (target : Uuid) (now : Timestamp) : ExceptT Error Plan Summary := do
  onConnection (Plan.ask Query.acquire)
  onConnection Plan.begin
  let summary ← summarize target now
  onConnection Plan.finish
  return summary

/-- After this another attempt makes no difference. -/
def settled : Except Error Summary → Bool
  | .ok _ => true
  | .error .notFound => true
  | .error _ => false

/-- At most `n` attempts, each on the store as it is by then and with failures of
its own, up to the first that settles the matter: what each of them came to, and
the store after them. -/
def run (target : Uuid) (now : Timestamp) :
    Nat → (Nat → Faults) → Store → List (Except Error Summary) × Store
  | 0, _, s => ([], s)
  | n + 1, f, s =>
    let (r, s) := (attempt target now).run.run (f 0) s
    if settled r then ([r], s)
    else
      let (rs, s) := run target now n (fun k => f (k + 1)) s
      (r :: rs, s)

end Recompute
end IssueTracker
