import IssueTracker.Proofs.Steps

/-! What a caller who is known is answered, as long as storage works. The guard of an
issue decides before the body of the request is looked at: an issue that is there is
handed on to callers with access, one that is not there is not found. -/

namespace IssueTracker
namespace Service

section Guard

variable {α : Type} {c : Context} {s : Store} {f : Issue → Action α} {id : Uuid}
  {Q : α → Session → Prop} {R : Refusal → Session → Prop}

theorem wp_guardIssue_missing (h : s.Untouched) (named : pathId? c.captures = some id)
    (missing : s.findIssueRow id = none) (refused : R .notFound ⟨s, none⟩) :
    Action.wp False (guardIssue c >>= f) Q R ⟨s, none⟩ := by
  rw [Action.wp_bind]
  unfold guardIssue
  rw [named]
  refine Action.wp_require (fun id' hid => ?_) fun hn => by cases hn
  obtain rfl := Option.some.inj hid
  refine Action.wp_fetch_ok h.acquire ?_
  refine Action.wp_fetch_ok (h.findIssue id) ?_
  rw [missing]
  exact refused

theorem wp_ensureAccess_admitted {u : User} {project : Uuid} {f : Unit → Action α} (h : s.Untouched)
    (admitted : s.Admits u project) (next : Action.wp False (f ()) Q R ⟨s, none⟩) :
    Action.wp False (ensureAccess u project >>= f) Q R ⟨s, none⟩ := by
  rw [Action.wp_bind]
  unfold ensureAccess
  split
  · exact next
  · next other =>
    refine Action.wp_fetch_ok (h.hasAccess _ _) ?_
    have granted : s.grants project u.id = true := by
      rcases admitted with admin | access
      · exact absurd admin other
      · rw [h.hasAccess] at access
        exact Except.ok.inj access
    rw [granted]
    exact next

theorem wp_ensureAccess_refused {u : User} {project : Uuid} {f : Unit → Action α} (h : s.Untouched)
    (closed : ¬ s.Admits u project) (refused : R .forbidden ⟨s, none⟩) :
    Action.wp False (ensureAccess u project >>= f) Q R ⟨s, none⟩ := by
  rw [Action.wp_bind]
  unfold ensureAccess
  split
  · next admin => exact absurd (.inl admin) closed
  · refine Action.wp_fetch_ok (h.hasAccess _ _) ?_
    cases granted : s.grants project u.id with
    | true => exact absurd (.inr (by rw [h.hasAccess, granted])) closed
    | false => exact refused

theorem wp_guardIssue_found {i : Issue} (h : s.Untouched) (named : pathId? c.captures = some id)
    (found : s.findIssueRow id = some i) (admitted : s.Admits c.user i.project)
    (next : Action.wp False (f i) Q R ⟨s, none⟩) :
    Action.wp False (guardIssue c >>= f) Q R ⟨s, none⟩ := by
  rw [Action.wp_bind]
  unfold guardIssue
  rw [named]
  refine Action.wp_require (fun id' hid => ?_) fun hn => by cases hn
  obtain rfl := Option.some.inj hid
  refine Action.wp_fetch_ok h.acquire ?_
  refine Action.wp_fetch_ok (h.findIssue id) ?_
  rw [found]
  exact wp_ensureAccess_admitted h admitted next

theorem wp_guardIssue_refused {i : Issue} (h : s.Untouched) (named : pathId? c.captures = some id)
    (found : s.findIssueRow id = some i) (closed : ¬ s.Admits c.user i.project)
    (refused : R .forbidden ⟨s, none⟩) :
    Action.wp False (guardIssue c >>= f) Q R ⟨s, none⟩ := by
  rw [Action.wp_bind]
  unfold guardIssue
  rw [named]
  refine Action.wp_require (fun id' hid => ?_) fun hn => by cases hn
  obtain rfl := Option.some.inj hid
  refine Action.wp_fetch_ok h.acquire ?_
  refine Action.wp_fetch_ok (h.findIssue id) ?_
  rw [found]
  exact wp_ensureAccess_refused h closed refused

end Guard

section Requests

variable {config : Config} {draw : Draw} {r : Request} {s : Store} {u : User} {op : Operation}

/-- A caller who is known gets to the handler of the operation. -/
theorem wp_answer {Q : Outcome → Session → Prop} (known : s.Knows r u)
    (hop : r.operation? = some op)
    (handled : ∀ captures, pathId? captures = r.subject? →
      Action.wp False (op.handler ⟨config, draw, r, captures, u⟩)
        (fun a st => Q ⟨a.response, a.submit⟩ st) (fun e st => Q ⟨e.response, none⟩ st) ⟨s, none⟩) :
    (answer config draw r).wp False Q ⟨s, none⟩ := by
  obtain ⟨a, ha, hop⟩ := Option.bind_eq_some_iff.1 hop
  have route := a.handler?_dispatch r.method
  rw [hop, Option.map_some] at route
  have plain (o : Response) : withAllow a.dispatch r o = o := by rw [withAllow, route]
  have named : pathId? a.captures = r.subject? := by
    rw [a.pathId?_captures, Request.subject?, ha, Option.bind_some]
  unfold answer
  rw [Aim.find?_issues, ha]
  refine (Plan.wp_bind _ _ _ _).2 ?_
  have dispatched : Action.wp False (dispatch config draw r a.dispatch) (fun o st => Q o st)
      (fun e st => Q ⟨e.response, none⟩ st) ⟨s, none⟩ := by
    unfold dispatch
    refine wp_authenticate (fun caller hc => ?_) fun hf => ?_
    · obtain rfl := Except.ok.inj (hc.symm.trans known)
      dsimp only
      rw [route, Action.wp_bind]
      exact handled a.captures named
    · rw [known] at hf
      simp at hf
  refine Plan.wp_mono (fun o st ho => ?_) dispatched
  cases o with
  | ok o =>
    change Q ⟨withAllow a.dispatch r o.response, o.submit⟩ st
    rw [plain]
    exact ho
  | error e =>
    change Q ⟨withAllow a.dispatch r e.response, none⟩ st
    rw [plain]
    exact ho

/-- Only operations on one issue are about a path that names it. -/
theorem guarded_of_subject {id : Uuid} (hop : r.operation? = some op)
    (named : r.subject? = some id) : op ≠ .list ∧ op ≠ .create := by
  obtain ⟨a, ha, hop⟩ := Option.bind_eq_some_iff.1 hop
  rw [Request.subject?, ha, Option.bind_some] at named
  constructor
  all_goals
    rintro rfl
    -- the other places have neither of the two operations
    unfold Aim.operation? at hop
    cases a with
    | all => cases named
    | one => split at hop <;> simp_all
    | comments => split at hop <;> simp_all

/-- Nothing but a failure to find it comes of a request on an issue that is not there. -/
theorem answer_missing (config : Config) (draw : Draw) {id : Uuid} (h : s.Untouched)
    (known : s.Knows r u) (hop : r.operation? = some op) (named : r.subject? = some id)
    (missing : s.findIssueRow id = none) :
    ((answer config draw r).run Faults.none s).1.response.status = 404 := by
  obtain ⟨list, create⟩ := guarded_of_subject hop named
  refine Plan.wp_run (Q := fun (o : Outcome) _ => o.response.status = 404)
    (Faults.within_none False) ?_
  refine wp_answer known hop fun captures hc => ?_
  have hc := hc.trans named
  cases op with
  | list => exact absurd rfl list
  | create => exact absurd rfl create
  | get => exact wp_guardIssue_missing h hc missing rfl
  | update => exact wp_guardIssue_missing h hc missing rfl
  | delete => exact wp_guardIssue_missing h hc missing rfl
  | comments => exact wp_guardIssue_missing h hc missing rfl
  | addComment => exact wp_guardIssue_missing h hc missing rfl

/-- A caller without access is refused, whatever the request is about to do. -/
theorem answer_forbidden (config : Config) (draw : Draw) {id : Uuid} {i : Issue} (h : s.Untouched)
    (known : s.Knows r u) (hop : r.operation? = some op) (named : r.subject? = some id)
    (found : s.findIssueRow id = some i) (closed : ¬ s.Admits u i.project) :
    ((answer config draw r).run Faults.none s).1 = ⟨Refusal.forbidden.response, none⟩ := by
  obtain ⟨list, create⟩ := guarded_of_subject hop named
  refine Plan.wp_run (Q := fun (o : Outcome) _ => o = ⟨Refusal.forbidden.response, none⟩)
    (Faults.within_none False) ?_
  refine wp_answer known hop fun captures hc => ?_
  have hc := hc.trans named
  cases op with
  | list => exact absurd rfl list
  | create => exact absurd rfl create
  | get => exact wp_guardIssue_refused h hc found closed rfl
  | update => exact wp_guardIssue_refused h hc found closed rfl
  | delete => exact wp_guardIssue_refused h hc found closed rfl
  | comments => exact wp_guardIssue_refused h hc found closed rfl
  | addComment => exact wp_guardIssue_refused h hc found closed rfl

theorem answer_get (config : Config) (draw : Draw) {id : Uuid} {i : Issue} (h : s.Untouched)
    (known : s.Knows r u) (hop : r.operation? = some .get) (named : r.subject? = some id)
    (found : s.findIssueRow id = some i) (admitted : s.Admits u i.project) :
    ((answer config draw r).run Faults.none s).1 =
      ⟨Response.of 200 (.json (Issue.codec.encode i)), none⟩ := by
  refine Plan.wp_run
    (Q := fun (o : Outcome) _ => o = ⟨.of 200 (.json (Issue.codec.encode i)), none⟩)
    (Faults.within_none False) ?_
  refine wp_answer known hop fun captures hc => ?_
  exact wp_guardIssue_found h (hc.trans named) found admitted rfl

end Requests

end Service
end IssueTracker
