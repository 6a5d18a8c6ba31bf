import IssueTracker.Plan

/-! Plans that take turns on one store. A turn is one statement, or one
transaction from its opening to its end: each of those has the store to itself. -/

namespace IssueTracker
namespace Plan

variable {α : Type}

/-- Carries on to the end of the transaction that is open. -/
def closeTransaction : Plan α → Session → Plan α × Store
  | .done a, s => (.done a, s.rollback.store)
  | .query q next, s =>
    let r := q s.store
    (next r.1).closeTransaction { s with store := r.2 }
  | .start next, s => (next (.ok ())).closeTransaction { s with saved := some s.store }
  | .commit next, s => (next (.ok ()), s.store)

/-- One turn; a plan that is done stays as it is. -/
def turn : Plan α → Store → Plan α × Store
  | .done a, s => (.done a, s)
  | .query q next, s =>
    let r := q s
    (next r.1, r.2)
  | .start next, s => (next (.ok ())).closeTransaction ⟨s, some s⟩
  | .commit next, s => (next (.ok ()), s)

def result? : Plan α → Option α
  | .done a => some a
  | _ => none

end Plan
end IssueTracker
