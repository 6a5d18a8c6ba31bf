import IssueTracker.Proofs.Wp

/-! Two plans side by side, each on a session of its own. They are in lockstep when both
take steps of the same kind, whether none fails or the same steps of both meet the same
errors; a condition holds then of what they come to and of the sessions they end in
(`Plan.Lockstep.run`). For actions the refusals have to be the same. -/

namespace IssueTracker

namespace Plan

inductive Lockstep {α β : Type} (Q : α → β → Session → Session → Prop) :
    Plan α → Plan β → Session → Session → Prop where
  | done {a : α} {b : β} {s s' : Session} (end_ : Q a b s s') : Lockstep Q (.done a) (.done b) s s'
  | query {γ δ : Type} {q : Query γ} {q' : Query δ} {next : Except DbError γ → Plan α}
    {next' : Except DbError δ → Plan β} {s s' : Session}
    (failed : ∀ e, Lockstep Q (next (.error e)) (next' (.error e)) s s')
    (answered : Lockstep Q (next (q s.store).1) (next' (q' s'.store).1)
      { s with store := (q s.store).2 } { s' with store := (q' s'.store).2 }) :
    Lockstep Q (.query q next) (.query q' next') s s'
  | start {next : Except DbError Unit → Plan α} {next' : Except DbError Unit → Plan β}
    {s s' : Session} (failed : ∀ e, Lockstep Q (next (.error e)) (next' (.error e)) s s')
    (opened : Lockstep Q (next (.ok ())) (next' (.ok ())) { s with saved := some s.store }
      { s' with saved := some s'.store }) :
    Lockstep Q (.start next) (.start next') s s'
  | commit {next : Except DbError Unit → Plan α} {next' : Except DbError Unit → Plan β}
    {s s' : Session}
    (failed : ∀ e, Lockstep Q (next (.error e)) (next' (.error e)) s.rollback s'.rollback)
    (lasting : Lockstep Q (next (.ok ())) (next' (.ok ())) { s with saved := none }
      { s' with saved := none }) :
    Lockstep Q (.commit next) (.commit next') s s'

namespace Lockstep

variable {α β γ δ : Type} {p : Plan α} {p' : Plan β} {s s' : Session}

theorem mono {Q R : α → β → Session → Session → Prop} (h : Lockstep Q p p' s s')
    (weaken : ∀ a b s s', Q a b s s' → R a b s s') : Lockstep R p p' s s' := by
  induction h with
  | done end_ => exact .done (weaken _ _ _ _ end_)
  | query _ _ failed answered => exact .query failed answered
  | start _ _ failed opened => exact .start failed opened
  | commit _ _ failed lasting => exact .commit failed lasting

theorem bind {Q : γ → δ → Session → Session → Prop} {f : α → Plan γ} {f' : β → Plan δ}
    (h : Lockstep (fun a b s s' => Lockstep Q (f a) (f' b) s s') p p' s s') :
    Lockstep Q (p >>= f) (p' >>= f') s s' := by
  change Lockstep Q (p.bind f) (p'.bind f') s s'
  induction h with
  | done end_ => exact end_
  | query _ _ failed answered => exact .query failed answered
  | start _ _ failed opened => exact .start failed opened
  | commit _ _ failed lasting => exact .commit failed lasting

/-- The same failures in both runs do not tell them apart. -/
theorem runFrom {Q : α → β → Prop} (h : Lockstep (fun a b _ _ => Q a b) p p' s s') (f : Faults) :
    Q (p.runFrom f s).1 (p'.runFrom f s').1 := by
  induction h generalizing f with
  | done end_ => exact end_
  | query _ _ failed answered =>
    rw [Plan.runFrom, Plan.runFrom]
    cases f 0 with
    | none => exact answered f.later
    | some e => exact failed e f.later
  | start _ _ failed opened =>
    rw [Plan.runFrom, Plan.runFrom]
    cases f 0 with
    | none => exact opened f.later
    | some e => exact failed e f.later
  | commit _ _ failed lasting =>
    rw [Plan.runFrom, Plan.runFrom]
    cases f 0 with
    | none => exact lasting f.later
    | some e => exact failed e f.later

end Lockstep

end Plan

namespace Action

variable {α β γ δ : Type} {Q : α → β → Session → Session → Prop} {s s' : Session}

/-- Two values for which the condition holds, or the same refusal twice. -/
def bothEnds (Q : α → β → Session → Session → Prop) :
    Except Refusal α → Except Refusal β → Session → Session → Prop
  | .ok a, .ok b, s, s' => Q a b s s'
  | .error e, .error e', _, _ => e = e'
  | _, _, _, _ => False

def Lockstep (Q : α → β → Session → Session → Prop) (a : Action α) (b : Action β)
    (s s' : Session) : Prop :=
  Plan.Lockstep (bothEnds Q) a.run b.run s s'

namespace Lockstep

theorem pure {a : α} {b : β} (h : Q a b s s') : Lockstep Q (Pure.pure a) (Pure.pure b) s s' :=
  .done h

theorem refused (e : Refusal) : Lockstep Q (throw e) (throw e) s s' :=
  .done rfl

theorem mono {Q R : α → β → Session → Session → Prop} {a : Action α} {b : Action β}
    (h : Lockstep Q a b s s') (weaken : ∀ a b s s', Q a b s s' → R a b s s') :
    Lockstep R a b s s' := by
  refine Plan.Lockstep.mono h fun x y s s' both => ?_
  match x, y, both with
  | .ok x, .ok y, both => exact weaken x y s s' both
  | .error e, .error _, rfl => rfl

theorem bind {a : Action γ} {b : Action δ} {f : γ → Action α} {g : δ → Action β}
    (h : Lockstep (fun x y s s' => Lockstep Q (f x) (g y) s s') a b s s') :
    Lockstep Q (a >>= f) (b >>= g) s s' := by
  rw [Lockstep, ExceptT.run_bind, ExceptT.run_bind]
  refine .bind (Plan.Lockstep.mono h fun x y s s' both => ?_)
  match x, y, both with
  | .ok x, .ok y, both => exact both
  | .error e, .error _, rfl => exact .done rfl

variable {f : γ → Action α} {g : δ → Action β}

theorem require {a : Option γ} {b : Option δ} {e : Refusal}
    (present : ∀ x, a = some x → ∃ y, b = some y ∧ Lockstep Q (f x) (g y) s s')
    (absent : a = none → b = none) :
    Lockstep Q (Action.require a e >>= f) (Action.require b e >>= g) s s' := by
  cases a with
  | none =>
    rw [absent rfl]
    exact refused e
  | some x =>
    obtain ⟨y, rfl, next⟩ := present x rfl
    exact next

/-- Both statements answer, and leave the stores as they are. -/
theorem fetch {q : Query γ} {q' : Query δ} {x : γ} {y : δ} (left : q s.store = (.ok x, s.store))
    (right : q' s'.store = (.ok y, s'.store)) (next : Lockstep Q (f x) (g y) s s') :
    Lockstep Q (Action.fetch q >>= f) (Action.fetch q' >>= g) s s' := by
  refine bind (Plan.Lockstep.bind (.query (fun e => .done (.done rfl)) (.done ?_)))
  rw [left, right]
  exact .done next

/-- One statement that both make is answered in the same way. -/
theorem ask {q : Query γ} {refuse : DbError → Refusal} {g : γ → Action β}
    (same : (q s.store).1 = (q s'.store).1)
    (next : ∀ x, (q s.store).1 = .ok x → Lockstep Q (f x) (g x) { s with store := (q s.store).2 }
      { s' with store := (q s'.store).2 }) :
    Lockstep Q (Action.ask q refuse >>= f) (Action.ask q refuse >>= g) s s' := by
  refine bind (Plan.Lockstep.bind (.query (fun e => .done (.done rfl)) (.done ?_)))
  rw [← same]
  cases h : (q s.store).1 with
  | ok x => exact .done (next x h)
  | error e => exact .done rfl

theorem begin {f : Unit → Action α} {g : Unit → Action β}
    (next : Lockstep Q (f ()) (g ()) { s with saved := some s.store }
      { s' with saved := some s'.store }) :
    Lockstep Q (Action.begin >>= f) (Action.begin >>= g) s s' :=
  bind (Plan.Lockstep.bind (.start (fun _ => .done (.done rfl)) (.done (.done next))))

theorem commit {refuse : DbError → Refusal} {f : Unit → Action α} {g : Unit → Action β}
    (next : Lockstep Q (f ()) (g ()) { s with saved := none } { s' with saved := none }) :
    Lockstep Q (Action.commit refuse >>= f) (Action.commit refuse >>= g) s s' :=
  bind (Plan.Lockstep.bind (.commit (fun _ => .done (.done rfl)) (.done (.done next))))

end Lockstep

end Action
end IssueTracker
