import IssueTracker.Proofs.Ledger

/-! What becomes of the rows of issues and comments, and on whose behalf: an event leaves
them alone, or it is a request of a caller who is known and one of four things is done to
them, the answer saying so. What all rows have in common after every history is read off
`after_change`. -/

namespace IssueTracker
namespace Service

/-- What an event does to the rows of issues and comments. -/
inductive Change (config : Config) (s : Service) : Event → Service → Prop where
  | kept {e : Event} {s' : Service} (issues : s'.store.issues = s.store.issues)
    (comments : s'.store.comments = s.store.comments) : Change config s e s'
  | filed {draw : Draw} {faults : Faults} {r : Request} {s' : Service} {u : User} {p : Patch}
    {t : Target} (op : r.operation? = some .create) (known : s.store.Knows r u)
    (entity : r.entity? Patch.codec = some p) (named : targetId? p = some t.id)
    (valid : p.creationViolations = []) (target : t ∈ s.store.targets)
    (answered : (s.handle config draw faults r).1.status = 201)
    (fresh : ∀ o ∈ s.store.issues, o.id ≠ draw.id)
    (issues : s'.store.issues = s.store.issues ++ [newIssue p t u.id draw])
    (comments : s'.store.comments = s.store.comments) :
    Change config s (.request draw faults r) s'
  | rewritten {draw : Draw} {faults : Faults} {r : Request} {s' : Service} {p : Patch} {i : Issue}
    (entity : r.entity? Patch.codec = some p) (valid : p.violations = [])
    (old : i ∈ s.store.issues)
    (issues : s'.store.issues =
      Issue.replaced { p.apply i with updated := draw.now } s.store.issues)
    (comments : s'.store.comments = s.store.comments) :
    Change config s (.request draw faults r) s'
  | dropped {draw : Draw} {faults : Faults} {r : Request} {s' : Service} {i : Issue}
    (issues : s'.store.issues = s.store.issues.filter fun o => o.id != i.id)
    (comments : s'.store.comments = s.store.comments.filter fun c => c.link != i.id) :
    Change config s (.request draw faults r) s'
  | added {draw : Draw} {faults : Faults} {r : Request} {s' : Service} {u : User}
    {d : CommentDraft} {i : Issue} (op : r.operation? = some .addComment)
    (known : s.store.Knows r u) (named : r.subject? = some i.id) (old : i ∈ s.store.issues)
    (entity : r.entity? CommentDraft.codec = some d)
    (answered : (s.handle config draw faults r).1.status = 201)
    (fresh : ∀ o ∈ s.store.comments, o.id ≠ draw.id)
    (issues : s'.store.issues = s.store.issues)
    (comments : s'.store.comments = s.store.comments ++ [newComment d i.id u.id draw]) :
    Change config s (.request draw faults r) s'

variable {config : Config} {s s' : Service} {e : Event}

/-- Only requests change the comments. -/
theorem Step.comments (step : Step config s e s') (untouched : s.store.Untouched)
    (other : ∀ draw faults r, e ≠ .request draw faults r) :
    s'.store.comments = s.store.comments := by
  cases step with
  | enter entered => exact entered.comments
  | request => exact absurd rfl (other _ _ _)
  | idle => rfl
  | work _ leaves =>
    obtain ⟨ts, rfl⟩ := leaves.retargets untouched
    rfl

theorem after_change (h : s.store.Untouched) (e : Event) :
    Change config s e (s.after config e) := by
  have other (quiet : ∀ draw faults r, e ≠ .request draw faults r) :
      Change config s e (s.after config e) := by
    have step : Step config s e (s.after config e) := after_step h e
    exact .kept (step.issues h quiet) (step.comments h quiet)
  cases e with
  | request draw faults r =>
    obtain ⟨o, store, effect, he⟩ := handle_eq config draw faults r s
    have status : (s.handle config draw faults r).1.status = o.response.status := by
      rw [he, stamp_status]
    have after_ : s.after config (.request draw faults r) =
        ⟨store, s.queue ++ o.submit.toList⟩ := congrArg Prod.snd he
    rw [after_]
    cases effect with
    | nothing => exact .kept rfl rfl
    | create op known entity named valid found admitted added =>
      obtain ⟨rfl, -, fresh, ns, rfl⟩ := h.addIssue added
      obtain ⟨target, rfl⟩ := h.findTarget found
      exact .filed op known entity named valid target status fresh rfl rfl
    | update op reached entity valid updated =>
      obtain ⟨old, hold, rfl, -, rfl⟩ := h.updateIssue updated
      have found := h.found reached.found
      obtain ⟨mem, rfl, -⟩ := Store.findIssueRow_some found
      obtain rfl : _ = old := Option.some.inj (found.symm.trans hold)
      exact .rewritten entity valid mem rfl rfl
    | delete op reached cleared removed =>
      obtain ⟨ns, rfl⟩ := h.removeComments cleared
      obtain ⟨ns', rfl⟩ := Store.Untouched.removeIssue (h.of_marks (by rfl)) removed
      exact .dropped rfl rfl
    | comment op reached entity valid added =>
      obtain ⟨mem, rfl, -⟩ := Store.findIssueRow_some (h.found reached.found)
      obtain ⟨rfl, fresh, -, ns, rfl⟩ := h.addComment added
      exact .added op reached.known reached.named mem entity status fresh rfl rfl
  | _ => exact other (by simp)

theorem change_concat (config : Config) (es : List Event) (e : Event) :
    Change config (run config es) e (run config (es ++ [e])) := by
  rw [run_concat]
  exact after_change (run_untouched config es) e

/-- What holds of the rows at first and is kept by every change holds after every history. -/
theorem run_changes {P : Store → Prop} (init : P {})
    (keep : ∀ s e s', P s.store → Change config s e s' → P s'.store) (es : List Event) :
    P (run config es).store := by
  induction es using List.reverseRecOn with
  | nil => exact init
  | append_singleton es e ih => exact keep _ e _ ih (change_concat config es e)

end Service
end IssueTracker
