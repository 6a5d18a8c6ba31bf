import IssueTracker.Proofs.Steps

/-! Requests that change nothing: those that fail, at whatever step, and those that only
read. Lists, which are the only answers that go by the configuration, are among them: what a
history leaves depends on nothing that is configured but the number of attempts. -/

namespace IssueTracker
namespace Service

section Effects

variable {draw : Draw} {r : Request} {s s' : Store} {o : Outcome}

theorem Effect.same_of_failure (e : Effect draw r s o s') (failed : o.response.isSuccess = false) :
    s' = s ∧ o.submit = none := by
  cases e with
  | nothing => exact ⟨rfl, rfl⟩
  | create => cases failed
  | update => cases failed
  | delete => cases failed
  | comment => cases failed

theorem Effect.same_of_read (e : Effect draw r s o s')
    (reads : r.method = "GET" ∨ r.method = "HEAD") : s' = s ∧ o.submit = none := by
  have other {op : Operation} (hop : r.operation? = some op) (writes : op.method ≠ "GET") :
      False := by
    obtain ⟨get, head⟩ := Request.not_reads hop writes
    rcases reads with h | h
    · exact get h
    · exact head h
  cases e with
  | nothing => exact ⟨rfl, rfl⟩
  | create op => exact (other op (by decide)).elim
  | update op => exact (other op (by decide)).elim
  | delete op => exact (other op (by decide)).elim
  | comment op => exact (other op (by decide)).elim

end Effects

section Configurations

variable {config config' : Config} {draw : Draw} {r : Request}

/-- Only lists go by the configuration. -/
theorem answer_config (other : r.operation? ≠ some .list) :
    answer config draw r = answer config' draw r := by
  unfold answer
  rw [Aim.find?_issues]
  cases ha : Aim.ofPath? r.uri.path with
  | none => rfl
  | some a =>
    have same : dispatch config draw r a.dispatch = dispatch config' draw r a.dispatch := by
      refine congrArg (authenticate r >>= ·) (funext fun caller => ?_)
      cases caller with
      | none => rfl
      | some u =>
        dsimp only
        rw [a.handler?_dispatch]
        rw [Request.operation?, ha, Option.bind_some] at other
        cases hop : a.operation? r.method with
        | none => rfl
        | some op =>
          cases op with
          | list => exact absurd hop other
          | _ => rfl
    simp only [Option.map_some, same]

theorem handle_config (faults : Faults) (s : Service) :
    (s.handle config draw faults r).2 = (s.handle config' draw faults r).2 := by
  by_cases list : r.operation? = some .list
  · have reads : r.method = "GET" ∨ r.method = "HEAD" :=
      (Request.method_of_operation? list).imp id And.left
    have kept (config : Config) : (s.handle config draw faults r).2 = s := by
      obtain ⟨o, store, effect, he⟩ := handle_eq config draw faults r s
      obtain ⟨same, none_⟩ := effect.same_of_read reads
      rw [he, same, none_]
      simp
    rw [kept, kept]
  · rw [handle, handle, answer_config list]

/-- What a history leaves is the same however pages and searches are configured. -/
theorem run_config (attempts : config.attempts = config'.attempts) (es : List Event) :
    run config es = run config' es := by
  induction es using List.reverseRecOn with
  | nil => rfl
  | append_singleton es e ih =>
    rw [run_concat, run_concat, ih]
    cases e with
    | request draw faults r => exact handle_config faults _
    | work now faults => rw [after, after, work, work, attempts]
    | _ => rfl

end Configurations

/-- A request that does not succeed, or only reads, leaves the store and the queue as they
were: whatever is in them, and whichever of its statements fails. -/
theorem handle_unchanged (config : Config) (draw : Draw) (faults : Faults) (r : Request)
    (s : Service)
    (h : (s.handle config draw faults r).1.isSuccess = false
      ∨ r.method = "GET" ∨ r.method = "HEAD") :
    (s.handle config draw faults r).2 = s := by
  obtain ⟨o, store, effect, he⟩ := handle_eq config draw faults r s
  have same : store = s.store ∧ o.submit = none := by
    rcases h with failed | reads
    · rw [he] at failed
      exact effect.same_of_failure ((stamp_isSuccess draw r o.response).symm.trans failed)
    · exact effect.same_of_read reads
  rw [he, same.1, same.2]
  simp

open Sample in
/-- The eighth step of a deletion makes it last; when that fails, the issue is still there. -/
theorem handle_unchanged_uncommitted :
    (filed.handle config (draw issue) (fun n => if n = 7 then some .closed else none)
        (onIssue "DELETE" {})).1.status = 500
      ∧ (filed.handle config (draw issue) (fun n => if n = 7 then some .closed else none)
        (onIssue "DELETE" {})).2 = filed := by
  have failed : (filed.handle config (draw issue) (fun n => if n = 7 then some .closed else none)
      (onIssue "DELETE" {})).1.status = 500 := by
    rw [filed_eq]
    decide +kernel
  refine ⟨failed, handle_unchanged _ _ _ _ _ (.inl ?_)⟩
  rw [Response.isSuccess, failed]
  rfl

end Service
end IssueTracker
