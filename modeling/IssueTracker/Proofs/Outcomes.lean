import IssueTracker.Proofs.Access
import IssueTracker.Proofs.Answers
import IssueTracker.Proofs.Following

/-! What the request of a caller who is known comes to as long as storage works: one answer,
and one store after it. An operation is followed step by step until it ends; the guard that
the operations on one issue have in common ends in one of four ways. -/

namespace IssueTracker

/-- The issue holds a unique id of a target. The empty text is none. -/
def Issue.Holds (o : Issue) (target : Uuid) (name : Option String) : Prop :=
  o.target = target ∧ ∃ n ∈ name, n ≠ "" ∧ o.uniqId = some n

instance (o : Issue) (target : Uuid) (name : Option String) : Decidable (o.Holds target name) :=
  inferInstanceAs (Decidable (_ ∧ _))

namespace Store

variable {s : Store}

/-- An issue is added behind the others, unless its unique id or its id is taken, or its
project or its target is missing. -/
theorem Untouched.addIssue_eq (h : s.Untouched) (i : Issue) : Store.addIssue i s =
    if s.issues.any fun o => i.clashes o then (.error (.notUnique s.uniqIdColumns), s)
    else if s.issues.any fun o => o.id == i.id then (.error (.sameKey (s.columnOf .issues "id")), s)
    else if (s.findProject i.project).isNone || (s.findTargetRow i.target).isNone then
      (.error .foreignKey, s)
    else (.ok i, { s with
      issues := s.issues ++ [i]
      numbers := s.numbers ++ [⟨.issues, i.id, s.nextNumber .issues⟩] }) := by
  have enrolled := enrol_of_full { s with issues := s.issues ++ [i] } h.full .issues i.id
  have taken : (s.findIssueRow i.id).isSome = s.issues.any fun o => o.id == i.id := by
    rw [h.findIssueRow, List.isSome_find?]
  rw [Store.addIssue, Query.write, h.need]
  simp only [ok_bind, throw_bind, enrolled, taken]
  split_ifs with clash taken home
  · rfl
  · rfl
  · rfl
  · rfl

/-- Who a request is from depends on users and tokens only. -/
theorem Untouched.knows_iff {t : Store} {r : Request} {u : User} (h : s.Untouched)
    (h' : t.Untouched) (users : t.users = s.users) (tokens : t.tokens = s.tokens) :
    t.Knows r u ↔ s.Knows r u := by
  unfold Knows caller?
  cases r.bearer? with
  | none => rfl
  | some token =>
    dsimp only
    rw [h.userOfToken, h'.userOfToken]
    simp only [findUser, users, tokens]

end Store

/-- What is written is there already. -/
def Refusal.taken : Refusal := ⟨409, "resource already exists"⟩

namespace Service

/-- Without failures of storage, the action ends with this answer and leaves this store. -/
def Comes (a : Action Reply) (st : Session) (o : Outcome) (s' : Store) : Prop :=
  Action.wp False a (fun r st => (⟨r.response, r.submit⟩ : Outcome) = o ∧ st.rollback.store = s')
    (fun e st => (⟨e.response, none⟩ : Outcome) = o ∧ st.rollback.store = s') st

namespace Comes

variable {α : Type} {st : Session} {o : Outcome} {s' : Store} {q : Query α} {x : Option α}
  {e : Refusal} {err : DbError} {a : α} {refuse : DbError → Refusal} {f : α → Action Reply}

theorem reply {r : Reply} : Comes (pure r) st ⟨r.response, r.submit⟩ st.rollback.store :=
  ⟨rfl, rfl⟩

theorem refused : Comes (throw e) st ⟨e.response, none⟩ st.rollback.store :=
  ⟨rfl, rfl⟩

theorem require_some (h : x = some a) (next : Comes (f a) st o s') :
    Comes (Action.require x e >>= f) st o s' := by
  subst h
  exact next

theorem require_none (h : x = none) :
    Comes (Action.require x e >>= f) st ⟨e.response, none⟩ st.rollback.store := by
  subst h
  exact ⟨rfl, rfl⟩

theorem fetch (answers : q st.store = (.ok a, st.store)) (next : Comes (f a) st o s') :
    Comes (Action.fetch q >>= f) st o s' :=
  Action.wp_fetch_ok answers next

theorem ask_ok {store : Store} (answers : q st.store = (.ok a, store))
    (next : Comes (f a) { st with store := store } o s') :
    Comes (Action.ask q refuse >>= f) st o s' := by
  refine Action.wp_ask (fun b hb => ?_) (fun e he => ?_) False.elim
  · rw [answers] at hb ⊢
    cases hb
    exact next
  · rw [answers] at he
    cases he

theorem ask_error (fails : q st.store = (.error err, st.store)) (refuses : refuse err = e) :
    Comes (Action.ask q refuse >>= f) st ⟨e.response, none⟩ st.rollback.store := by
  refine Action.wp_ask (fun b hb => ?_) (fun e he => ?_) False.elim
  · rw [fails] at hb
    cases hb
  · rw [fails] at he ⊢
    cases he
    exact ⟨by rw [refuses], rfl⟩

section Access

variable {s : Store} {u : User} {project : Uuid} {f : Unit → Action Reply} (h : s.Untouched)
include h

theorem admitted (access : s.Entitles u project) (next : Comes (f ()) ⟨s, none⟩ o s') :
    Comes (ensureAccess u project >>= f) ⟨s, none⟩ o s' :=
  wp_ensureAccess_admitted h (h.admits_iff.2 access) next

theorem forbidden (closed : ¬ s.Entitles u project) :
    Comes (ensureAccess u project >>= f) ⟨s, none⟩ ⟨Refusal.forbidden.response, none⟩ s :=
  wp_ensureAccess_refused h (mt h.admits_iff.1 closed) ⟨rfl, rfl⟩

end Access

end Comes

/-- What the guard of an issue comes to, read off the rows: the first check that fails is
what is answered. -/
inductive Guarded (s : Store) (r : Request) (u : User) : Except Refusal Issue → Prop where
  | unnamed (named : r.subject? = none) : Guarded s r u (.error (.badRequest "wrong id format"))
  | missing {id : Uuid} (named : r.subject? = some id) (missing : ∀ i ∈ s.issues, i.id ≠ id) :
    Guarded s r u (.error .notFound)
  | closed {i : Issue} (named : r.subject? = some i.id) (there : i ∈ s.issues)
    (closed : ¬ s.Entitles u i.project) : Guarded s r u (.error .forbidden)
  | passed {i : Issue} (named : r.subject? = some i.id) (there : i ∈ s.issues)
    (access : s.Entitles u i.project) : Guarded s r u (.ok i)

theorem Guarded.of_ok {s : Store} {r : Request} {u : User} {i : Issue}
    (passed : Guarded s r u (.ok i)) :
    r.subject? = some i.id ∧ i ∈ s.issues ∧ s.Entitles u i.project := by
  cases passed with
  | passed named there access => exact ⟨named, there, access⟩

section Guard

variable {s : Store} {c : Context} {f : Issue → Action Reply} {o : Outcome} {s' : Store}

theorem guarded_total (s : Store) (r : Request) (u : User) : ∃ v, Guarded s r u v := by
  cases named : r.subject? with
  | none => exact ⟨_, .unnamed named⟩
  | some id =>
    by_cases there : ∃ i ∈ s.issues, i.id = id
    · obtain ⟨i, hi, rfl⟩ := there
      by_cases access : s.Entitles u i.project
      · exact ⟨_, .passed named hi access⟩
      · exact ⟨_, .closed named hi access⟩
    · exact ⟨_, .missing named fun i hi same => there ⟨i, hi, same⟩⟩

variable (h : s.Untouched) (sound : s.Sound) (named : pathId? c.captures = c.request.subject?)
include h sound named

theorem Comes.turned {e : Refusal} (refused : Guarded s c.request c.user (.error e)) :
    Comes (guardIssue c >>= f) ⟨s, none⟩ ⟨e.response, none⟩ s := by
  cases refused with
  | unnamed unnamed =>
    rw [Comes, Action.wp_bind]
    unfold guardIssue
    rw [named, unnamed]
    exact ⟨rfl, rfl⟩
  | @missing id hid missing =>
    have gone : s.findIssueRow id = none := by
      rw [h.findIssueRow, List.find?_eq_none]
      exact fun i hi => by simpa using missing i hi
    exact wp_guardIssue_missing h (named.trans hid) gone ⟨rfl, rfl⟩
  | closed hid there closed =>
    exact wp_guardIssue_refused h (named.trans hid) (sound.findIssueRow h there)
      (mt h.admits_iff.1 closed) ⟨rfl, rfl⟩

theorem Comes.passed {i : Issue} (passed : Guarded s c.request c.user (.ok i))
    (next : Comes (f i) ⟨s, none⟩ o s') : Comes (guardIssue c >>= f) ⟨s, none⟩ o s' := by
  cases passed with
  | passed hid there access =>
    exact wp_guardIssue_found h (named.trans hid) (sound.findIssueRow h there)
      (h.admits_iff.2 access) next

end Guard

/-- What an operation comes to is what its request is answered, and what it leaves behind. -/
theorem handle_comes {config : Config} {draw : Draw} {r : Request} {s : Service} {u : User}
    {op : Operation} {o : Outcome} {store : Store} (known : s.store.Knows r u)
    (hop : r.operation? = some op)
    (comes : ∀ captures, pathId? captures = r.subject? →
      Comes (op.handler ⟨config, draw, r, captures, u⟩) ⟨s.store, none⟩ o store) :
    s.handle config draw Faults.none r =
      (stamp draw r o.response, ⟨store, s.queue ++ o.submit.toList⟩) := by
  have ends : (answer config draw r).run Faults.none s.store = (o, store) := by
    obtain ⟨answered, left⟩ := Plan.wp_run (Q := fun o' s' => o' = o ∧ s' = store)
      (Faults.within_none False) (wp_answer known hop comes)
    exact Prod.ext answered left
  rw [handle, ends]

end Service
end IssueTracker
