import IssueTracker.Plan.Turns
import IssueTracker.Service.Basic

/-! Plans in turns, seen from one of them. The others may change the store between its
turns, so it meets one store at each (`Plan.Meets`). Met with the same store all along, a
plan comes to what it comes to alone (`run_turn`). What all statements of a plan have in
common (`Plan.Every`) is kept by each of its turns and by the plan that is left. -/

namespace IssueTracker

namespace Plan

variable {α β : Type}

theorem bind_done (p : Plan α) : (p >>= done) = p := by
  change p.bind done = p
  induction p with
  | done a => rfl
  | query q next ih => simp only [bind, ih]
  | start next ih => simp only [bind, ih]
  | commit next ih => simp only [bind, ih]

theorem bind_bind {γ : Type} (p : Plan α) (f : α → Plan β) (g : β → Plan γ) :
    (p >>= f >>= g) = p >>= fun a => f a >>= g := by
  change (p.bind f).bind g = p.bind fun a => (f a).bind g
  induction p with
  | done a => rfl
  | query q next ih => simp only [bind, ih]
  | start next ih => simp only [bind, ih]
  | commit next ih => simp only [bind, ih]

instance : LawfulMonad Plan :=
  .mk' Plan bind_done (fun _ _ => rfl) bind_bind

theorem runFrom_closeTransaction (p : Plan α) (s : Session) :
    p.runFrom Faults.none s =
      (p.closeTransaction s).1.runFrom Faults.none ⟨(p.closeTransaction s).2, none⟩ := by
  induction p generalizing s with
  | done a => rfl
  | query q next ih => exact ih _ _
  | start next ih => exact ih _ _
  | commit next ih => rfl

/-- The turn that comes next, and then the rest of them. -/
theorem run_turn (p : Plan α) (s : Store) :
    p.run Faults.none s = (p.turn s).1.run Faults.none (p.turn s).2 := by
  cases p with
  | done a => rfl
  | query q next => rfl
  | start next =>
    have whole := runFrom_closeTransaction (next (.ok ())) ⟨s, some s⟩
    exact congrArg (fun r => (r.1, r.2.store)) whole
  | commit next => rfl

theorem run_of_turn {p p' : Plan α} {s s' : Store} (turn : p.turn s = (p', s')) :
    p.run Faults.none s = p'.run Faults.none s' := by
  rw [run_turn, turn]

/-- A plan that is done after one turn has had it to itself. -/
theorem run_of_last {p : Plan α} {s s' : Store} {a : α} (turn : p.turn s = (.done a, s')) :
    p.run Faults.none s = (a, s') :=
  run_of_turn turn

/-- The plan meets these stores, one at each of its turns, and comes to this. -/
inductive Meets : Plan α → List Store → α → Prop where
  | done (a : α) : Meets (.done a) [] a
  | turn {p : Plan α} {x : Store} {xs : List Store} {a : α} (going : p.result? = none)
    (rest : Meets (p.turn x).1 xs a) : Meets p (x :: xs) a

theorem Meets.of_done {a b : α} {xs : List Store} (h : Meets (.done a) xs b) : xs = [] ∧ b = a := by
  cases h with
  | done => exact ⟨rfl, rfl⟩
  | turn going => cases going

/-- What is left of a plan that is not done, after its next turn. -/
theorem Meets.next {p : Plan α} {xs : List Store} {a : α} (h : p.Meets xs a)
    (going : p.result? = none) : ∃ x ys, xs = x :: ys ∧ (p.turn x).1.Meets ys a := by
  cases h with
  | done => cases going
  | turn _ rest => exact ⟨_, _, rfl, rest⟩

/-- All statements that a plan may make are of this kind. -/
def Every (P : (γ : Type) → Query γ → Prop) : Plan α → Prop
  | .done _ => True
  | @query _ γ q next => P γ q ∧ ∀ r, (next r).Every P
  | .start next => ∀ r, (next r).Every P
  | .commit next => ∀ r, (next r).Every P

namespace Every

variable {P Q : (γ : Type) → Query γ → Prop} {p : Plan α}

theorem mono (h : p.Every P) (weaken : ∀ γ q, P γ q → Q γ q) : p.Every Q := by
  induction p with
  | done a => trivial
  | query q next ih => exact ⟨weaken _ q h.1, fun r => ih r (h.2 r)⟩
  | start next ih => exact fun r => ih r (h r)
  | commit next ih => exact fun r => ih r (h r)

theorem bind {f : α → Plan β} (h : p.Every P) (rest : ∀ a, (f a).Every P) :
    (p >>= f).Every P := by
  change (p.bind f).Every P
  induction p with
  | done a => exact rest a
  | query q next ih => exact ⟨h.1, fun r => ih r (h.2 r)⟩
  | start next ih => exact fun r => ih r (h r)
  | commit next ih => exact fun r => ih r (h r)

theorem closeTransaction (h : p.Every P) (s : Session) : (p.closeTransaction s).1.Every P := by
  induction p generalizing s with
  | done a => trivial
  | query q next ih => exact ih _ (h.2 _) _
  | start next ih => exact ih _ (h _) _
  | commit next ih => exact h _

/-- What is left after a turn is of the same kind. -/
theorem turn (h : p.Every P) (x : Store) : (p.turn x).1.Every P := by
  cases p with
  | done a => trivial
  | query q next => exact h.2 _
  | start next => exact (h _).closeTransaction _
  | commit next => exact h _

section Invariants

variable {J : Store → Prop}

theorem closeTransaction_keeps (h : p.Every fun _ q => ∀ s, J s → J (q s).2) {s : Session}
    (store : J s.store) (saved : ∀ x ∈ s.saved, J x) : J (p.closeTransaction s).2 := by
  induction p generalizing s with
  | done a =>
    change J (s.saved.getD s.store)
    cases hs : s.saved with
    | none => exact store
    | some x => exact saved x hs
  | query q next ih => exact ih _ (h.2 _) (h.1 _ store) saved
  | start next ih => exact ih _ (h _) store fun x hx => Option.some.inj hx ▸ store
  | commit next ih => exact store

/-- What every statement keeps, every turn keeps. -/
theorem turn_keeps (h : p.Every fun _ q => ∀ s, J s → J (q s).2) {x : Store} (hx : J x) :
    J (p.turn x).2 := by
  cases p with
  | done a => exact hx
  | query q next => exact h.1 x hx
  | start next => exact (h _).closeTransaction_keeps hx fun y hy => Option.some.inj hy ▸ hx
  | commit next => exact hx

end Invariants

/-- What no statement sees or touches, no run does. -/
theorem runFrom_map {J : Store → Prop} {f : Store → Store}
    (h : p.Every fun _ q => ∀ s, J s → q (f s) = ((q s).1, f (q s).2) ∧ J (q s).2)
    (faults : Faults) {s : Session} (store : J s.store) (saved : ∀ x ∈ s.saved, J x) :
    p.runFrom faults ⟨f s.store, s.saved.map f⟩ =
      ((p.runFrom faults s).1, ⟨f (p.runFrom faults s).2.store, none⟩) := by
  have back (s : Session) :
      (⟨f s.store, s.saved.map f⟩ : Session).rollback = ⟨f s.rollback.store, none⟩ := by
    obtain ⟨store, saved⟩ := s
    cases saved <;> rfl
  have opened {x : Store} (hx : J x) : ∀ y ∈ some x, J y := fun y hy => Option.some.inj hy ▸ hx
  have ended : ∀ y ∈ (none : Option Store), J y := by simp
  induction p generalizing faults s with
  | done a => exact congrArg (Prod.mk a) (back s)
  | query q next ih =>
    rw [runFrom, runFrom]
    cases faults 0 with
    | some e => exact ih _ (h.2 _) _ store saved
    | none =>
      obtain ⟨blind, kept⟩ := h.1 _ store
      dsimp only
      rw [blind]
      exact ih _ (h.2 _) _ (s := { s with store := (q s.store).2 }) kept saved
  | start next ih =>
    rw [runFrom, runFrom]
    cases faults 0 with
    | some e => exact ih _ (h _) _ store saved
    | none => exact ih _ (h _) _ (s := { s with saved := some s.store }) store (opened store)
  | commit next ih =>
    rw [runFrom, runFrom]
    cases faults 0 with
    | some e =>
      have again : J s.rollback.store := by
        obtain ⟨x, saved'⟩ := s
        cases saved' with
        | none => exact store
        | some y => exact saved y rfl
      dsimp only
      rw [back]
      exact ih _ (h _) _ (s := s.rollback) again ended
    | none => exact ih _ (h _) _ (s := { s with saved := none }) store ended

theorem run_map {J : Store → Prop} {f : Store → Store}
    (h : p.Every fun _ q => ∀ s, J s → q (f s) = ((q s).1, f (q s).2) ∧ J (q s).2)
    (faults : Faults) {s : Store} (hs : J s) :
    p.run faults (f s) = ((p.run faults s).1, f (p.run faults s).2) := by
  have whole := h.runFrom_map faults (s := ⟨s, none⟩) hs (by simp)
  exact congrArg (fun r => (r.1, r.2.store)) whole

end Every

end Plan

namespace Action

variable {α β : Type} {P : (γ : Type) → Query γ → Prop}

/-- All statements that an action may make are of this kind. -/
def Every (P : (γ : Type) → Query γ → Prop) (a : Action α) : Prop :=
  a.run.Every P

namespace Every

theorem pure (a : α) : Every P (Pure.pure a) :=
  trivial

theorem refused (e : Refusal) : Every P (throw e : Action α) :=
  trivial

theorem bind {a : Action β} {f : β → Action α} (h : a.Every P) (rest : ∀ b, (f b).Every P) :
    Every P (a >>= f) := by
  rw [Every, ExceptT.run_bind]
  refine Plan.Every.bind h fun r => ?_
  cases r with
  | ok b => exact rest b
  | error e => trivial

theorem require {o : Option β} {e : Refusal} {f : β → Action α} (rest : ∀ b, (f b).Every P) :
    Every P (Action.require o e >>= f) := by
  cases o with
  | none => exact refused e
  | some b => exact rest b

theorem ask {q : Query β} {refuse : DbError → Refusal} {f : β → Action α} (kind : P β q)
    (rest : ∀ b, (f b).Every P) : Every P (Action.ask q refuse >>= f) := by
  refine bind ⟨kind, fun r => ?_⟩ rest
  cases r <;> trivial

theorem begin {f : Unit → Action α} (rest : (f ()).Every P) : Every P (Action.begin >>= f) := by
  refine bind (fun r => ?_) fun _ => rest
  cases r <;> trivial

theorem commit {refuse : DbError → Refusal} {f : Unit → Action α} (rest : (f ()).Every P) :
    Every P (Action.commit refuse >>= f) := by
  refine bind (fun r => ?_) fun _ => rest
  cases r <;> trivial

end Every

variable {x x' : Store} {b : β} {e : DbError} {refuse : DbError → Refusal} {f : β → Action α}
  {γ : Type} {k : Except Refusal α → Plan γ}

/-- A statement that is answered, and what is left to do. -/
theorem turn_ask {q : Query β} (answer : q x = (.ok b, x')) :
    ((Action.ask q refuse >>= f).run >>= k).turn x = ((f b).run >>= k, x') := by
  change (_, (q x).2) = _
  rw [answer]
  rfl

/-- After a statement that fails nothing is left to do. -/
theorem turn_ask_error {q : Query β} (answer : q x = (.error e, x')) :
    ((Action.ask q refuse >>= f).run >>= k).turn x = (k (.error (refuse e)), x') := by
  change (_, (q x).2) = _
  rw [answer]
  rfl

/-- A transaction is one turn. -/
theorem turn_begin {f : Unit → Action α} : ((Action.begin >>= f).run >>= k).turn x =
    ((f ()).run >>= k).closeTransaction ⟨x, some x⟩ :=
  rfl

theorem close_ask {q : Query β} {s : Session} (answer : q s.store = (.ok b, x')) :
    ((Action.ask q refuse >>= f).run >>= k).closeTransaction s =
      ((f b).run >>= k).closeTransaction { s with store := x' } := by
  change Plan.closeTransaction _ { s with store := (q s.store).2 } = _
  rw [answer]
  rfl

end Action
end IssueTracker
