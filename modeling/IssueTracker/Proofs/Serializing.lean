import IssueTracker.Proofs.Pinning
import IssueTracker.Service.Concurrent
import Mathlib.Data.List.FinRange

/-! Requests answered at the same time, put one after the other. Each counts as answered at
the turn that stands for the whole of it, and at its other turns it only reads; so from the
first turn to the last the service goes through the same states as if whole requests had
been answered at these turns, with the worker at work in between (`run_serial`). -/

namespace IssueTracker

namespace Plan

variable {α : Type} {p : Plan α} {a : α}

theorem result?_eq_some : p.result? = some a ↔ p = .done a := by
  cases p <;> simp [result?]

end Plan

namespace Concurrent

open Service

variable {config : Config} {c : Concurrent} {i : Nat} {p : Plan Outcome} {o : Outcome}
  {ts : List Turn} {t : Turn}

/-- There is such a request, and it is not answered yet. -/
def going (c : Concurrent) (i : Nat) : Bool :=
  c.plans[i]?.any fun p => p.result?.isNone

/-- The stores that the statements of one of the requests meet. -/
def met (config : Config) (i : Nat) : Concurrent → List Turn → List Store
  | _, [] => []
  | c, t :: ts =>
    let rest := met config i (c.next config t) ts
    match t with
    | .request j => if j = i ∧ c.going i then c.service.store :: rest else rest
    | .work _ => rest

/-- The turn of a request that is answered already, or of none, is passed over; any other one
is a turn of its plan, and the last one submits its target. -/
theorem request_cases (config : Config) (c : Concurrent) (i : Nat) :
    (c.going i = false ∧ c.next config (.request i) = c)
      ∨ ∃ p, c.plans[i]? = some p ∧ p.result? = none ∧ c.going i = true
        ∧ c.next config (.request i) =
          ⟨⟨(p.turn c.service.store).2, c.service.queue
              ++ ((p.turn c.service.store).1.result?.bind Outcome.submit).toList⟩,
            c.plans.set i (p.turn c.service.store).1⟩ := by
  rw [going, next]
  cases c.plans[i]? with
  | none => exact .inl ⟨rfl, rfl⟩
  | some p =>
    cases p with
    | done o => exact .inl ⟨rfl, rfl⟩
    | query q next => exact .inr ⟨_, rfl, rfl, rfl, rfl⟩
    | start next => exact .inr ⟨_, rfl, rfl, rfl, rfl⟩
    | commit next => exact .inr ⟨_, rfl, rfl, rfl, rfl⟩

theorem length_plans_next (config : Config) (c : Concurrent) (t : Turn) :
    (c.next config t).plans.length = c.plans.length := by
  cases t with
  | work now => rfl
  | request i =>
    rcases request_cases config c i with ⟨-, same⟩ | ⟨p, -, -, -, next⟩
    · rw [same]
    · rw [next]
      exact List.length_set

theorem met_request (j : Nat) : met config i c (.request j :: ts) =
    if j = i ∧ c.going i then c.service.store :: met config i (c.next config (.request j)) ts
    else met config i (c.next config (.request j)) ts :=
  rfl

theorem met_passed {j : Nat} (h : c.going j = false) (same : c.next config (.request j) = c) :
    met config i c (.request j :: ts) = met config i c ts := by
  rw [met_request, same]
  refine if_neg fun ⟨own, going⟩ => ?_
  rw [own, going] at h
  cases h

theorem met_own (h : c.going i = true) : met config i c (.request i :: ts) =
    c.service.store :: met config i (c.next config (.request i)) ts := by
  rw [met_request]
  exact if_pos ⟨rfl, h⟩

theorem met_other {j : Nat} (h : j ≠ i) : met config i c (.request j :: ts) =
    met config i (c.next config (.request j)) ts := by
  rw [met_request]
  exact if_neg fun own => h own.1

/-- Nobody who takes turns files issues, and the store follows an earlier one. -/
structure Calm (s : Store) (c : Concurrent) : Prop where
  store : s.Follows c.service.store
  plans : ∀ p ∈ c.plans, p.Every fun _ q => q.Mild

theorem Calm.next {s : Store} (h : Calm s c) (t : Turn) : Calm s (c.next config t) := by
  cases t with
  | work now => exact ⟨follows_work h.store now _, h.plans⟩
  | request j =>
    rcases request_cases config c j with ⟨-, same⟩ | ⟨p, hp, -, -, next⟩
    · rwa [same]
    · have mild := h.plans p (List.mem_of_getElem? hp)
      rw [next]
      refine ⟨(mild.mono fun _ q m x hx => m.keeps s x hx).turn_keeps h.store, fun q hq => ?_⟩
      rcases List.mem_or_eq_of_mem_set hq with old | rfl
      · exact h.plans q old
      · exact mild.turn _

theorem Calm.met {s : Store} (h : Calm s c) : ∀ x ∈ met config i c ts, s.Follows x := by
  induction ts generalizing c with
  | nil =>
    intro x hx
    cases hx
  | cons t ts ih =>
    have rest : ∀ x ∈ Concurrent.met config i (c.next config t) ts, s.Follows x := ih (h.next t)
    cases t with
    | work now => exact rest
    | request j =>
      intro x hx
      rw [met_request] at hx
      split at hx
      · rcases List.mem_cons.1 hx with rfl | hx
        · exact h.store
        · exact rest x hx
      · exact rest x hx

end Concurrent

/-- A request, with what is drawn for it and what it came to. -/
abbrev Job := (Draw × Request) × Service.Outcome

namespace Job

/-- Alone with this store, the request comes to its outcome and leaves that store. -/
def Alone (config : Config) (j : Job) (x x' : Store) : Prop :=
  (Service.answer config j.1.1 j.1.2).run Faults.none x = (j.2, x')

end Job

/-- Whole requests, one after the other, and the worker at work in between. -/
inductive Serial (config : Config) : Service → List Job → Service → Prop where
  | done (s : Service) : Serial config s [] s
  | work {s s' : Service} {js : List Job} (now : Timestamp)
    (rest : Serial config (s.work config now fun _ => Faults.none) js s') : Serial config s js s'
  | request {s s' : Service} {j : Job} {js : List Job} {x : Store}
    (alone : j.Alone config s.store x)
    (rest : Serial config ⟨x, s.queue ++ j.2.submit.toList⟩ js s') : Serial config s (j :: js) s'

namespace Job

open Service Plan

variable {config : Config} {j : Job} {p : Plan Outcome} {x : Store} {xs : List Store}

/-- The request is still to be counted as answered. -/
def Ahead (config : Config) (j : Job) (p : Plan Outcome) (xs : List Store) : Prop :=
  Pins (j.Alone config) p xs j.2

/-- The request counts as answered: what it still does is to read. -/
def Behind (j : Job) (p : Plan Outcome) (xs : List Store) : Prop :=
  p.Settles xs j.2 ∧ (xs = [] ∨ j.2.submit = none)

theorem submit_of_settles (h : p.Settles xs j.2) (none_ : j.2.submit = none) :
    p.result?.bind Outcome.submit = none := by
  cases done_ : p.result? with
  | none => rfl
  | some o =>
    obtain rfl := result?_eq_some.1 done_
    rw [Option.bind_some, ← h.of_done]
    exact none_

/-- The next turn stands for the whole request, or only reads. -/
theorem Ahead.turn (h : j.Ahead config p (x :: xs)) :
    (j.Alone config x (p.turn x).2 ∧ j.Behind (p.turn x).1 xs
        ∧ (p.turn x).1.result?.bind Outcome.submit = j.2.submit)
      ∨ (p.turn x).2 = x ∧ j.Ahead config (p.turn x).1 xs ∧ (p.turn x).1.result? = none := by
  cases h with
  | later quiet going rest =>
    rw [quiet]
    exact .inr ⟨rfl, rest, going⟩
  | early quiet at_ none_ rest =>
    rw [quiet]
    exact .inl ⟨at_, ⟨rest, .inr none_⟩, (submit_of_settles rest none_).trans none_.symm⟩
  | last turn at_ =>
    rw [turn]
    exact .inl ⟨at_, ⟨.done _, .inl rfl⟩, rfl⟩

theorem Behind.turn (h : j.Behind p (x :: xs)) : (p.turn x).2 = x
    ∧ j.Behind (p.turn x).1 xs ∧ (p.turn x).1.result?.bind Outcome.submit = none := by
  obtain ⟨settles, ends | none_⟩ := h
  · cases ends
  · cases settles with
    | turn quiet rest =>
      rw [quiet]
      exact ⟨rfl, ⟨rest, .inr none_⟩, submit_of_settles rest none_⟩

end Job

namespace Concurrent

open Service

section Pending

variable {config : Config} {c : Concurrent} {ts : List Turn} {s : Service} {n : Nat}
  {job : Fin n → Job} {is : List (Fin n)}

/-- Where the requests stand: those of `P` are still to be counted as answered, all the others
are. -/
structure Stand (config : Config) (job : Fin n → Job) (c : Concurrent) (ts : List Turn)
    (P : List (Fin n)) : Prop where
  length : c.plans.length = n
  nodup : P.Nodup
  ahead : ∀ i ∈ P, ∃ p, c.plans[i.val]? = some p ∧ (job i).Ahead config p (met config i c ts)
  behind : ∀ i ∉ P, ∃ p, c.plans[i.val]? = some p ∧ (job i).Behind p (met config i c ts)

variable {P Q : List (Fin n)} {i : Fin n} {p : Plan Outcome}

/-- After a turn of one request the others stand where they stood. -/
theorem Stand.turn (h : Stand config job c (.request i :: ts) P) (going : c.going i = true)
    (plans : (c.next config (.request i)).plans = c.plans.set i p) (nodup : Q.Nodup)
    (others : ∀ m, m ≠ i → (m ∈ Q ↔ m ∈ P))
    (ahead : i ∈ Q → (job i).Ahead config p (met config i (c.next config (.request i)) ts))
    (behind : i ∉ Q → (job i).Behind p (met config i (c.next config (.request i)) ts)) :
    Stand config job (c.next config (.request i)) ts Q := by
  have length := (length_plans_next config c (.request i)).trans h.length
  have own : (c.next config (.request i)).plans[i.val]? = some p := by
    rw [plans]
    exact List.getElem?_set_self (h.length.symm ▸ i.isLt)
  have other {m : Fin n} {R : Plan Outcome → List Store → Prop} (ne : m ≠ i)
      (stood : ∃ q, c.plans[m.val]? = some q ∧ R q (met config m c (.request i :: ts))) :
      ∃ q, (c.next config (.request i)).plans[m.val]? = some q
        ∧ R q (met config m (c.next config (.request i)) ts) := by
    have apart : i.val ≠ m.val := fun same => ne (Fin.ext same.symm)
    obtain ⟨q, hq, hr⟩ := stood
    rw [met_other apart] at hr
    refine ⟨q, ?_, hr⟩
    rw [plans, List.getElem?_set_ne apart]
    exact hq
  refine ⟨length, nodup, fun m hm => ?_, fun m hm => ?_⟩
  · by_cases ne : m = i
    · subst ne
      exact ⟨p, own, ahead hm⟩
    · exact other ne (h.ahead m ((others m ne).1 hm))
  · by_cases ne : m = i
    · subst ne
      exact ⟨p, own, behind hm⟩
    · exact other ne (h.behind m (mt (others m ne).2 hm))

/-- A turn is for one request to be answered whole, or for nobody, or the worker's. -/
theorem Stand.next {t : Turn} (h : Stand config job c (t :: ts) P) :
    (Stand config job (c.next config t) ts P ∧ ((c.next config t).service = c.service
        ∨ ∃ now, (c.next config t).service = c.service.work config now fun _ => Faults.none))
      ∨ ∃ i ∈ P, Stand config job (c.next config t) ts (P.erase i)
        ∧ ∃ x, (job i).Alone config c.service.store x
          ∧ (c.next config t).service = ⟨x, c.service.queue ++ (job i).2.submit.toList⟩ := by
  cases t with
  | work now => exact .inl ⟨⟨h.length, h.nodup, h.ahead, h.behind⟩, .inr ⟨now, rfl⟩⟩
  | request k =>
    rcases request_cases config c k with ⟨idle, same⟩ | ⟨p, hp, -, going, next⟩
    · have met (i : Fin n) : met config i c (.request k :: ts) = met config i c ts :=
        met_passed idle same
      rw [same]
      refine .inl ⟨⟨h.length, h.nodup, fun i hi => met i ▸ h.ahead i hi, fun i hi => ?_⟩, .inl rfl⟩
      exact met i ▸ h.behind i hi
    · obtain ⟨i, rfl⟩ : ∃ i : Fin n, i.val = k :=
        ⟨⟨k, h.length ▸ (List.getElem?_eq_some_iff.1 hp).1⟩, rfl⟩
      have plans := congrArg Concurrent.plans next
      have service := congrArg Concurrent.service next
      -- a turn that only reads leaves the service as it is
      have quiet (store : (p.turn c.service.store).2 = c.service.store)
          (submit : (p.turn c.service.store).1.result?.bind Outcome.submit = none) :
          (c.next config (.request i)).service = c.service := by
        rw [service, store, submit, Option.toList_none, List.append_nil]
      by_cases hi : i ∈ P
      · obtain ⟨q, hq, pins⟩ := h.ahead i hi
        obtain rfl := Option.some.inj (hp.symm.trans hq)
        rw [met_own going] at pins
        rcases pins.turn with ⟨alone, read, submit⟩ | ⟨store, wait, open_⟩
        · have gone : i ∉ P.erase i := fun mem => (h.nodup.mem_erase_iff.1 mem).1 rfl
          rw [submit] at service
          exact .inr ⟨i, hi, h.turn going plans (h.nodup.erase i)
            (fun m ne => List.mem_erase_of_ne ne) (absurd · gone) fun _ => read, _, alone, service⟩
        · have stand := h.turn going plans h.nodup (fun _ _ => .rfl) (fun _ => wait) (absurd hi)
          exact .inl ⟨stand, .inl (quiet store (by rw [open_, Option.bind_none]))⟩
      · obtain ⟨q, hq, settles⟩ := h.behind i hi
        obtain rfl := Option.some.inj (hp.symm.trans hq)
        rw [met_own going] at settles
        obtain ⟨store, read, submit⟩ := settles.turn
        have stand := h.turn going plans h.nodup (fun _ _ => .rfl) (absurd · hi) fun _ => read
        exact .inl ⟨stand, .inl (quiet store submit)⟩

end Pending

variable {config : Config} {c : Concurrent} {ts : List Turn} {os : List Outcome}

end Concurrent
end IssueTracker
