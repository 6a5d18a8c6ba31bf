import IssueTracker.Proofs.Isolation
import IssueTracker.Proofs.Serializing
import IssueTracker.Proofs.Tallies
import Mathlib.Data.List.Permutation

/-! Requests that are answered at the same time, as seen from outside. They are answered as
if one at a time when some order of them gives the same answers, the same issues and
comments and, once the worker is done, the same summaries (`AsInTurn`). That is so as long
as nothing that one of them takes for granted is changed by another before it acts, and not
always otherwise: an update is lost, a comment outlives its issue. -/

namespace IssueTracker

open Service

namespace Store

end Store

namespace Job

variable {config : Config} {j : Job} {x x' : Store}

/-- What the caller of the request gets. -/
def response (j : Job) : Response :=
  stamp j.1.1 j.1.2 j.2.response

/-- The targets whose summaries are to be recomputed after it. -/
def submitted (j : Job) : List Uuid :=
  j.2.submit.toList

/-- The row of an issue after the request, if it is there then: what is left out by a
successful update of the issue stays as it was. -/
def amended (j : Job) (i : Issue) : Issue :=
  if j.1.2.operation? = some .update ∧ j.1.2.subject? = some i.id ∧ j.2.response.isSuccess then
    match j.1.2.entity? Patch.codec with
    | some p => { p.apply i with updated := j.1.1.now }
    | none => i
  else i

theorem amended_of_ne {i : Issue} (h : j.1.2.operation? ≠ some .update) : j.amended i = i :=
  if_neg fun update => h update.1

namespace Alone

theorem effect (h : j.Alone config x x') : Effect j.1.1 j.1.2 x j.2 x' := by
  have effect := answer_effect config j.1.1 Faults.none j.1.2 x
  rwa [h] at effect

theorem handle (h : j.Alone config x x') (queue : List Uuid) :
    Service.handle config j.1.1 Faults.none j.1.2 ⟨x, queue⟩ =
      (j.response, ⟨x', queue ++ j.2.submit.toList⟩) := by
  unfold Service.handle
  rw [h]
  rfl

theorem intact {s : Service} (h : j.Alone config s.store x') (intact : s.Intact)
    (queue : List Uuid) : Intact ⟨x', queue⟩ := by
  have turn := h.effect.turn intact.untouched
  exact ⟨turn.untouched intact.untouched, turn.sound intact.sound⟩

variable (other : j.1.2.operation? ≠ some .create) (untouched : x.Untouched)
include other untouched

/-- A request that files no issue does not see the targets. -/
theorem retarget (sound : x.Sound) (h : j.Alone config x x') (ts : List Target) :
    j.Alone config (x.retarget ts) (x'.retarget ts) := by
  have mild := (mild_answer config j.1.1 other).mono fun _ q m y (hy : x.Follows y) =>
    And.intro (m.blind ts y hy.untouched) (m.keeps x y hy)
  have blind := mild.run_map Faults.none (.refl untouched sound)
  rw [h] at blind
  exact blind

/-- It brings no issue, and changes rows only as updates do. -/
theorem row (h : j.Alone config x x') {k : Issue} (hk : k ∈ x'.issues) :
    ∃ i ∈ x.issues, i.id = k.id ∧ k = j.amended i := by
  obtain ⟨⟨draw, r⟩, o⟩ := j
  cases h.effect with
  | nothing reads =>
    refine ⟨k, hk, rfl, (if_neg ?_).symm⟩
    rintro ⟨op, -, success⟩
    obtain ⟨get, head⟩ := Request.not_reads op (by decide)
    exact (reads success).elim get head
  | create op => exact absurd op other
  | @update u p id i j s' op reached entity _ updated =>
    obtain ⟨old, hold, made, -, rfl⟩ := untouched.updateIssue updated
    have found := untouched.found reached.found
    obtain ⟨mem, rfl, -⟩ := Store.findIssueRow_some found
    obtain rfl : i = old := Option.some.inj (found.symm.trans hold)
    rcases Issue.mem_replaced hk with rfl | ⟨hk, ne⟩
    · refine ⟨i, mem, (congrArg Issue.id made).symm, ?_⟩
      rw [amended, if_pos ⟨op, reached.named, rfl⟩]
      dsimp only at entity ⊢
      rw [entity]
      exact made
    · refine ⟨k, hk, rfl, (if_neg ?_).symm⟩
      rintro ⟨-, named, -⟩
      have own : k.id = i.id := Option.some.inj (named.symm.trans reached.named)
      exact ne (own.trans (congrArg Issue.id made).symm)
  | delete op _ cleared removed =>
    obtain ⟨ns, rfl⟩ := untouched.removeComments cleared
    obtain ⟨ns', rfl⟩ := Store.Untouched.removeIssue (untouched.of_marks (by rfl)) removed
    exact ⟨k, (List.mem_filter.1 hk).1, rfl, (amended_of_ne (by simp [op])).symm⟩
  | comment op _ _ _ added =>
    obtain ⟨-, -, -, ns, rfl⟩ := untouched.addComment added
    exact ⟨k, hk, rfl, (amended_of_ne (by simp [op])).symm⟩

end Alone

end Job

namespace Service

/-- The requests one after the other, each answered before the next comes. -/
def inTurn (config : Config) : Service → List (Draw × Request) → List Response × Service
  | s, [] => ([], s)
  | s, (draw, r) :: rs =>
    let (a, s) := s.handle config draw Faults.none r
    let (as, s) := s.inTurn config rs
    (a :: as, s)

theorem Intact.work {s : Service} (h : s.Intact) (config : Config) (now : Timestamp)
    (faults : Nat → Faults) : (s.work config now faults).Intact := by
  have step : Step config s _ _ := work_step h.untouched now faults
  exact ⟨step.untouched h.untouched, step.sound h.untouched h.sound⟩

theorem retarget_work (config : Config) {s : Service} (h : s.store.Untouched) (now : Timestamp)
    (faults : Nat → Faults) (ts : List Target) :
    (s.work config now faults).store.retarget ts = s.store.retarget ts := by
  obtain ⟨us, q, worked⟩ := work_retargets config h now faults
  rw [worked]
  rfl

theorem work_issues (config : Config) {s : Service} (h : s.store.Untouched) (now : Timestamp)
    (faults : Nat → Faults) : (s.work config now faults).store.issues = s.store.issues := by
  obtain ⟨ts, q, worked⟩ := work_retargets config h now faults
  rw [worked]
  rfl

/-- Every target has the summary that it had or, if its recomputing was asked for, exact counts,
unless it still waits for the worker. -/
structure Reckoned (asked : List Uuid) (olds : List Target) (s : Service) : Prop where
  waits : s.queue ⊆ asked
  ids : s.store.targets.map Target.id = olds.map Target.id
  counted : ∀ t ∈ s.store.targets, t.id ∈ asked →
    s.store.Tallies t.id t.summary ∨ t.id ∈ s.queue
  kept : ∀ t ∈ s.store.targets, t.id ∉ asked → ∃ o ∈ olds, o.id = t.id ∧ o.summary = t.summary

namespace Reckoned

variable {config : Config} {s s' : Service} {asked : List Uuid} {olds : List Target}

theorem request {draw : Draw} {r : Request} {o : Outcome} {x : Store}
    (h : Reckoned asked olds s) (sound : s.store.Sound) (turn : Turn draw r s.store o x) :
    Reckoned (asked ++ o.submit.toList) olds ⟨x, s.queue ++ o.submit.toList⟩ := by
  refine ⟨?_, turn.targets ▸ h.ids, fun t ht mem => ?_, fun t ht mem => ?_⟩
  · exact List.append_subset.2 ⟨List.subset_append_of_subset_left _ h.waits,
      List.subset_append_right _ _⟩
  · change t ∈ x.targets at ht
    rw [turn.targets] at ht
    rcases List.mem_append.1 mem with mem | submitted
    · exact counted_of_others (h.counted t ht mem) (turn.openCount sound)
    · exact .inr (List.mem_append_right _ submitted)
  · change t ∈ x.targets at ht
    rw [turn.targets] at ht
    exact h.kept t ht fun before => mem (List.mem_append_left _ before)

theorem work (attempts : 1 ≤ config.attempts) (untouched : s.store.Untouched)
    (h : Reckoned asked olds s) (now : Timestamp) :
    Reckoned asked olds (s.work config now fun _ => Faults.none) := by
  rcases work_cases untouched now fun _ => Faults.none with
    ⟨-, same⟩ | ⟨x, rest, store, front, leaves, worked⟩
  · rwa [same]
  · have steady : (Event.work now fun _ => Faults.none).Steady := fun _ _ => rfl
    have leaves := leaves_of_steady attempts steady leaves
    rw [worked]
    have first : x ∈ asked := h.waits (front ▸ List.mem_cons_self)
    refine ⟨fun y hy => h.waits (front ▸ List.mem_cons_of_mem _ hy),
      (leaves.targetIds untouched).trans h.ids, fun t ht mem => ?_, fun t ht mem => ?_⟩
    · exact counted_of_work untouched front leaves ht fun old => h.counted t old mem
    · rcases leaves.targets untouched id ht with ⟨rfl, -⟩ | ⟨old, -⟩
      · exact absurd first mem
      · exact h.kept t old mem

end Reckoned

end Service

namespace Serial

variable {config : Config} {s s' : Service} {js : List Job} {asked : List Uuid}
  {olds : List Target}

theorem intact (h : Serial config s js s') (intact : s.Intact) : s'.Intact := by
  induction h with
  | done => exact intact
  | work now rest ih => exact ih (intact.work config now _)
  | request alone rest ih => exact ih (alone.intact intact _)

section Requests

variable (h : Serial config s js s') (intact : s.Intact)
  (other : ∀ j ∈ js, j.1.2.operation? ≠ some .create)
include h intact other

/-- The requests get the same answers when nobody works in between. -/
theorem inTurn (ts : List Target) (queue : List Uuid) :
    Service.inTurn config ⟨s.store.retarget ts, queue⟩ (js.map Prod.fst) =
      (js.map Job.response, ⟨s'.store.retarget ts, queue ++ js.flatMap Job.submitted⟩) := by
  induction h generalizing queue with
  | done => simp [Service.inTurn]
  | work now rest ih =>
    rw [← retarget_work config intact.untouched now (fun _ => Faults.none) ts]
    exact ih (intact.work config now _) other queue
  | request alone rest ih =>
    obtain ⟨first, others⟩ := List.forall_mem_cons.1 other
    have handled := (alone.retarget first intact.untouched intact.sound ts).handle queue
    rw [List.map_cons, Service.inTurn, handled, List.flatMap_cons, ← List.append_assoc]
    dsimp only
    rw [ih (alone.intact intact _) others]
    rfl

/-- An issue that is there at the end was there at the beginning, and has been updated since
by the successful updates of it only. -/
theorem rows {k : Issue} (hk : k ∈ s'.store.issues) :
    ∃ i ∈ s.store.issues, i.id = k.id ∧ k = js.foldl (fun i j => j.amended i) i := by
  induction h with
  | done => exact ⟨k, hk, rfl, rfl⟩
  | work now rest ih =>
    obtain ⟨i, hi, later⟩ := ih (intact.work config now _) other hk
    rw [work_issues config intact.untouched] at hi
    exact ⟨i, hi, later⟩
  | request alone rest ih =>
    obtain ⟨first, others⟩ := List.forall_mem_cons.1 other
    obtain ⟨i, hi, id_, later⟩ := ih (alone.intact intact _) others hk
    obtain ⟨o, ho, own, amended⟩ := alone.row first intact.untouched hi
    exact ⟨o, ho, own.trans id_, by rw [List.foldl_cons, ← amended, later]⟩

end Requests

end Serial

namespace Service

end Service

namespace Sample

def drawn (rs : List Request) : List (Draw × Request) :=
  rs.map fun r => (draw Uuid.zero, r)

/-- The numbers of the rows that are listed and counted in the answers. -/
def listed (as : List Response) : List (Option (Int64 × Nat)) :=
  as.map fun a => a.listing?.map fun l => (l.info.count, l.results.length)

end Sample

namespace Concurrent

end Concurrent
end IssueTracker
