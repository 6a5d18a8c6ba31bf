import IssueTracker.Store.Basic

/-! Plans: what a caller does with the store, one statement at a time, each step
deciding on the answer of the one before. A plan is run on a session, which
knows whether a transaction is open; leaving it open takes it back. A run may be
given the failures of the world: the error, if any, that each step meets instead
of being carried out. -/

namespace IssueTracker

inductive Plan (α : Type) : Type 1 where
  | done (a : α)
  | query {β : Type} (q : Query β) (next : Except DbError β → Plan α)
  /-- Opens a transaction. -/
  | start (next : Except DbError Unit → Plan α)
  /-- Makes the transaction last. -/
  | commit (next : Except DbError Unit → Plan α)

namespace Plan

variable {α β : Type}

def bind : Plan α → (α → Plan β) → Plan β
  | .done a, f => f a
  | .query q next, f => .query q fun r => (next r).bind f
  | .start next, f => .start fun r => (next r).bind f
  | .commit next, f => .commit fun r => (next r).bind f

instance : Monad Plan where
  pure := .done
  bind := bind

/-- One statement. -/
def ask (q : Query α) : Plan (Except DbError α) :=
  .query q .done

def begin : Plan (Except DbError Unit) :=
  .start .done

def finish : Plan (Except DbError Unit) :=
  .commit .done

end Plan

/-- The error that each step meets, if any. -/
abbrev Faults := Nat → Option DbError

namespace Faults

def none : Faults := fun _ => .none

/-- The failures after the first step. -/
def later (f : Faults) : Faults := fun n => f (n + 1)

end Faults

structure Session where
  store : Store
  /-- The store when the transaction was opened, while one is open. -/
  saved : Option Store := none

namespace Session

/-- The session without its open transaction and all that was done in it. -/
def rollback (s : Session) : Session :=
  ⟨s.saved.getD s.store, none⟩

end Session

namespace Plan

variable {α : Type}

def runFrom : Plan α → Faults → Session → α × Session
  | .done a, _, s => (a, s.rollback)
  | .query q next, f, s =>
    match f 0 with
    | some e => (next (.error e)).runFrom f.later s
    | none =>
      let r := q s.store
      (next r.1).runFrom f.later { s with store := r.2 }
  | .start next, f, s =>
    match f 0 with
    | some e => (next (.error e)).runFrom f.later s
    | none => (next (.ok ())).runFrom f.later { s with saved := some s.store }
  | .commit next, f, s =>
    match f 0 with
    | some e => (next (.error e)).runFrom f.later s.rollback
    | none => (next (.ok ())).runFrom f.later { s with saved := none }

/-- Runs a plan on a store. -/
def run (p : Plan α) (f : Faults) (s : Store) : α × Store :=
  let r := p.runFrom f ⟨s, none⟩
  (r.1, r.2.store)

end Plan
end IssueTracker
