import IssueTracker.Proofs.Answers

/-! Which statuses the operations answer with, measured against those that their documentation
lists. The documentation is put together when the routes are declared, and nothing compares it
with what the handlers do; so every way in which a handler ends is gone through here, and what
is not documented is named. -/

namespace IssueTracker

theorem RouteDoc.mem_statuses {own : List Nat} {n : Nat} :
    n ∈ statuses own ↔ n ∈ own ∨ n ∈ commonStatuses := by
  rw [statuses, List.mem_eraseDups, List.mem_mergeSort, List.mem_append]

namespace Operation

/-- What the documentation calls the operation. -/
def name : Operation → String
  | .list => "list"
  | .create => "create"
  | .get => "get"
  | .update => "update"
  | .delete => "delete"
  | .comments => "comments"
  | .addComment => "commentsAdd"

/-- The declaration of the operation. -/
def call? (op : Operation) : Option (Call Handler) :=
  Service.issues.calls.find? fun c => c.operation == op.name

/-- The statuses that its declaration adds to those that all operations have. -/
def own (op : Operation) : List Nat :=
  (op.call?.map Call.own).getD []

/-- The statuses that are documented for the operation. -/
def returns (op : Operation) : List Nat :=
  ((Service.issues.docs.find? fun d => d.operation == op.name).map RouteDoc.returns).getD []

/-- The operation with this name is the one with this handler. -/
theorem call?_handler (op : Operation) :
    ∃ c ∈ op.call?, c.handler = op.handler ∧ c.method = op.method := by
  cases op <;> exact ⟨_, rfl, rfl, rfl⟩

theorem mem_returns {op : Operation} {n : Nat} :
    n ∈ op.returns ↔ n ∈ op.own ∨ n ∈ RouteDoc.commonStatuses := by
  have documented : op.returns = RouteDoc.statuses op.own := by
    cases op <;> rfl
  rw [documented, RouteDoc.mem_statuses]

end Operation

theorem Query.write_fails {α : Type} {f : Store → Except DbError (α × Store)} {s : Store}
    {e : DbError} (h : (write f s).1 = .error e) : f s = .error e := by
  unfold write at h
  split at h
  · cases h
  · next failed =>
    obtain rfl := Except.error.inj h
    exact failed

namespace Store

variable {s : Store} {e : DbError}

theorem need_fails {α : Type} {ts : List Table} {x : Except DbError α}
    (h : (do s.need ts; x) = .error e) : e.isDuplicate = false ∨ x = .error e := by
  unfold need at h
  split at h
  · obtain rfl := Except.error.inj h
    exact .inl rfl
  · exact .inr h

theorem removeComments_fails {kind : CommentKind} {link : Uuid}
    (h : (removeComments kind link s).1 = .error e) : e.isDuplicate = false :=
  (need_fails (Query.write_fails h)).resolve_right nofun

theorem removeIssue_fails {id : Uuid} (h : (removeIssue id s).1 = .error e) :
    e.isDuplicate = false :=
  (need_fails (Query.write_fails h)).resolve_right nofun

/-- A comment is a duplicate only of one with the same id. -/
theorem addComment_fails {c : Comment} (h : (addComment c s).1 = .error e)
    (duplicate : e.isDuplicate = true) : ∃ o ∈ s.comments, o.id = c.id := by
  rcases need_fails (Query.write_fails h) with other | h
  · rw [other] at duplicate
    cases duplicate
  · by_contra fresh
    rw [if_neg (by simpa using fresh)] at h
    split at h
    · obtain rfl := Except.error.inj h
      cases duplicate
    · cases h

end Store

namespace Service

theorem ofWrite_status_cases (fallback : String) (e : DbError) :
    (Refusal.ofWrite fallback e).status = 400 ∨ (Refusal.ofWrite fallback e).status = 500
      ∨ e.isDuplicate = true ∧ (Refusal.ofWrite fallback e).status = 409 := by
  unfold Refusal.ofWrite
  split_ifs with duplicate key
  · exact .inr (.inr ⟨duplicate, rfl⟩)
  · exact .inl rfl
  · exact .inr (.inl rfl)

/-- A status that an operation answers with and that is not in its documentation. -/
inductive Undocumented (s : Store) (draw : Draw) (r : Request) (fails : Prop) :
    Operation → Nat → Prop where
  /-- The comments are asked for of what is no id. -/
  | malformed (unnamed : r.subject? = none) : Undocumented s draw r fails .comments 400
  /-- The id that was drawn for a comment is that of another one. -/
  | taken {c : Comment} (there : c ∈ s.comments) (same : c.id = draw.id) :
    Undocumented s draw r fails .addComment 409
  /-- Storage itself fails while something is written, which may be taken for a duplicate. -/
  | failed {op : Operation} (meets : fails) (writes : op = .delete ∨ op = .addComment) :
    Undocumented s draw r fails op 409

/-- The status is documented for the operation, or it is one of those that are missing. -/
def Accounted (s : Store) (draw : Draw) (r : Request) (fails : Prop) (op : Operation) (n : Nat) :
    Prop :=
  n ∈ op.returns ∨ Undocumented s draw r fails op n

section Operations

variable {fails : Prop} {c : Context} {s : Store} {op : Operation} {n : Nat}

theorem accounted (listed : n ∈ op.own ∨ n ∈ RouteDoc.commonStatuses) :
    Accounted s c.draw c.request fails op n :=
  .inl (Operation.mem_returns.2 listed)

theorem accounted_ofWrite {fallback : String} {e : DbError}
    (rejected : 400 ∈ op.own)
    (duplicate : e.isDuplicate = true → Accounted s c.draw c.request fails op 409) :
    Accounted s c.draw c.request fails op (Refusal.ofWrite fallback e).status := by
  rcases ofWrite_status_cases fallback e with h | h | ⟨same, h⟩
  · rw [h]
    exact accounted (.inl rejected)
  · rw [h]
    exact accounted (.inr (by decide))
  · rw [h]
    exact duplicate same

/-- What is refused on the way is accounted for, whatever the action is for. -/
theorem wp_ensureAccess_accounted {α : Type} {Q : α → Session → Prop} {u : User} {project : Uuid}
    {f : Unit → Action α}
    (admitted : Action.wp fails (f ()) Q
      (fun e _ => Accounted s c.draw c.request fails op e.status) ⟨s, none⟩) :
    Action.wp fails (ensureAccess u project >>= f) Q
      (fun e _ => Accounted s c.draw c.request fails op e.status) ⟨s, none⟩ := by
  rw [Action.wp_bind]
  unfold ensureAccess
  split
  · exact admitted
  · refine Action.wp_fetch rfl (fun allowed _ => ?_) fun _ => accounted (.inr (by decide))
    cases allowed with
    | false => exact accounted (n := 403) (.inr (by decide))
    | true => exact admitted

/-- The action ends with a status that is accounted for, one way or the other. -/
def Answers (fails : Prop) (c : Context) (s : Store) (op : Operation) (a : Action Reply) : Prop :=
  Action.wp fails a (fun a _ => Accounted s c.draw c.request fails op a.status)
    (fun e _ => Accounted s c.draw c.request fails op e.status) ⟨s, none⟩

theorem answers_guardIssue {f : Issue → Action Reply}
    (malformed : pathId? c.captures = none → Accounted s c.draw c.request fails op 400)
    (missing : 404 ∈ op.own)
    (reached : ∀ i, Answers fails c s op (f i)) : Answers fails c s op (guardIssue c >>= f) := by
  rw [Answers, Action.wp_bind]
  unfold guardIssue
  refine Action.wp_require (fun _ _ => ?_) malformed
  refine Action.wp_fetch rfl (fun _ _ => ?_) fun _ => accounted (.inr (by decide))
  refine Action.wp_fetch rfl (fun _ _ => ?_) fun _ => accounted (.inr (by decide))
  refine Action.wp_require (fun i _ => ?_) fun _ => accounted (.inl missing)
  exact wp_ensureAccess_accounted (reached i)

theorem answers_list : Answers fails c s .list (Operation.handler .list c) := by
  unfold Answers Operation.handler listIssues
  refine Action.wp_fetch rfl (fun _ _ => ?_) fun _ => accounted (by decide)
  refine Action.wp_require (fun q _ => ?_) fun _ => accounted (by decide)
  extract_lets filter page rest
  have answered : Answers fails c s .list (rest ()) := by
    refine Action.wp_fetch rfl (fun _ _ => ?_) fun _ => accounted (by decide)
    refine Action.wp_fetch rfl (fun _ _ => ?_) fun _ => accounted (by decide)
    exact accounted (n := 200) (by decide)
  split
  · exact wp_ensureAccess_accounted answered
  · exact answered

theorem answers_create : Answers fails c s .create (Operation.handler .create c) := by
  unfold Answers Operation.handler createIssue
  refine Action.wp_require (fun p _ => ?_) fun _ => accounted (by decide)
  refine Action.wp_require (fun id _ => ?_) fun _ => accounted (by decide)
  dsimp only
  split
  · exact accounted (n := 400) (by decide)
  refine Action.wp_fetch rfl (fun _ _ => ?_) fun _ => accounted (by decide)
  refine Action.wp_fetch rfl (fun _ _ => ?_) fun _ => accounted (by decide)
  refine Action.wp_require (fun t _ => ?_) fun _ => accounted (by decide)
  refine wp_ensureAccess_accounted ?_
  have refused (e : DbError) : Accounted s c.draw c.request fails .create
      (Refusal.ofWrite "failed to create issue" e).status :=
    accounted_ofWrite (by decide) fun _ => accounted (by decide)
  refine Action.wp_ask (fun i _ => ?_) (fun e _ => refused e) fun _ => refused
  exact accounted (n := 201) (by decide)

theorem answers_get : Answers fails c s .get (Operation.handler .get c) := by
  unfold Answers Operation.handler getIssue
  refine answers_guardIssue (fun _ => accounted (by decide)) (by decide) fun i => ?_
  exact accounted (n := 200) (by decide)

theorem answers_update : Answers fails c s .update (Operation.handler .update c) := by
  unfold Answers Operation.handler updateIssue
  refine answers_guardIssue (fun _ => accounted (by decide)) (by decide) fun i => ?_
  refine Action.wp_require (fun p _ => ?_) fun _ => accounted (by decide)
  dsimp only
  split
  · exact accounted (n := 400) (by decide)
  have refused (e : DbError) : Accounted s c.draw c.request fails .update
      (Refusal.ofWrite "failed to update issue" e).status :=
    accounted_ofWrite (by decide) fun _ => accounted (by decide)
  refine Action.wp_ask (fun found _ => ?_) (fun e _ => refused e) fun _ => refused
  refine Action.wp_require (fun j _ => ?_) fun _ => accounted (by decide)
  exact accounted (n := 200) (by decide)

theorem answers_delete : Answers fails c s .delete (Operation.handler .delete c) := by
  unfold Answers Operation.handler deleteIssue
  refine answers_guardIssue (fun _ => accounted (by decide)) (by decide) fun i => ?_
  have rejected {e : DbError} (other : e.isDuplicate = false) : Accounted s c.draw c.request fails
      .delete (Refusal.ofWrite "failed to delete issue" e).status :=
    accounted_ofWrite (by decide) fun same => by rw [other] at same; cases same
  have failed (meets : fails) (e : DbError) : Accounted s c.draw c.request fails .delete
      (Refusal.ofWrite "failed to delete issue" e).status :=
    accounted_ofWrite (by decide) fun _ => .inr (.failed meets (.inl rfl))
  refine Action.wp_begin ?_ fun _ => accounted (by decide)
  refine Action.wp_ask (fun _ _ => ?_) (fun e he => rejected (Store.removeComments_fails he)) failed
  refine Action.wp_ask (fun found _ => ?_) (fun e he => rejected (Store.removeIssue_fails he)) failed
  cases found with
  | false => exact accounted (n := 404) (by decide)
  | true => exact Action.wp_commit (accounted (n := 204) (by decide)) failed

theorem answers_comments (named : pathId? c.captures = c.request.subject?) :
    Answers fails c s .comments (Operation.handler .comments c) := by
  unfold Answers Operation.handler listComments
  refine answers_guardIssue (fun none_ => .inr (.malformed (named ▸ none_))) (by decide)
    fun i => ?_
  refine Action.wp_fetch rfl (fun _ _ => ?_) fun _ => accounted (by decide)
  exact accounted (n := 200) (by decide)

theorem answers_addComment : Answers fails c s .addComment (Operation.handler .addComment c) := by
  unfold Answers Operation.handler addComment
  refine answers_guardIssue (fun _ => accounted (by decide)) (by decide) fun i => ?_
  refine Action.wp_require (fun d _ => ?_) fun _ => accounted (by decide)
  dsimp only
  split
  · exact accounted (n := 400) (by decide)
  refine Action.wp_ask (fun k _ => ?_) (fun e he => ?_) fun meets e => ?_
  · exact accounted (n := 201) (by decide)
  · refine accounted_ofWrite (by decide) fun duplicate => ?_
    obtain ⟨o, there, same⟩ := Store.addComment_fails he duplicate
    exact .inr (.taken there same)
  · exact accounted_ofWrite (by decide) fun _ => .inr (.failed meets (.inr rfl))

theorem answers (named : pathId? c.captures = c.request.subject?) :
    Answers fails c s op (op.handler c) := by
  cases op with
  | list => exact answers_list
  | create => exact answers_create
  | get => exact answers_get
  | update => exact answers_update
  | delete => exact answers_delete
  | comments => exact answers_comments named
  | addComment => exact answers_addComment

end Operations

section Requests

variable {config : Config} {draw : Draw} {r : Request} {s : Store} {op : Operation}

/-- Also callers who are not known are answered with what is accounted for. -/
theorem answer_accounted (config : Config) (draw : Draw) (faults : Faults) (s : Store)
    (hop : r.operation? = some op) :
    Accounted s draw r (faults ≠ Faults.none) op
      ((answer config draw r).run faults s).1.response.status := by
  have within : faults.Within (faults ≠ Faults.none) := by
    rintro n e met rfl
    cases met
  obtain ⟨a, ha, hop⟩ := Option.bind_eq_some_iff.1 hop
  have route := a.handler?_dispatch r.method
  rw [hop, Option.map_some] at route
  have named : pathId? a.captures = r.subject? := by
    rw [a.pathId?_captures, Request.subject?, ha, Option.bind_some]
  have common (n : Nat) (listed : n ∈ RouteDoc.commonStatuses) :
      Accounted s draw r (faults ≠ Faults.none) op n :=
    .inl (Operation.mem_returns.2 (.inr listed))
  have dispatched : Action.wp (faults ≠ Faults.none) (dispatch config draw r a.dispatch)
      (fun o _ => Accounted s draw r (faults ≠ Faults.none) op o.response.status)
      (fun e _ => Accounted s draw r (faults ≠ Faults.none) op e.status) ⟨s, none⟩ := by
    unfold dispatch
    refine wp_authenticate (fun caller _ => ?_) fun _ => common 500 (by decide)
    cases caller with
    | none => exact common 401 (by decide)
    | some u =>
      dsimp only
      rw [route, Action.wp_bind]
      exact answers named
  refine Plan.wp_run (Q := fun (o : Outcome) _ =>
    Accounted s draw r (faults ≠ Faults.none) op o.response.status) within ?_
  unfold answer
  rw [Aim.find?_issues, ha]
  refine (Plan.wp_bind _ _ _ _).2 (Plan.wp_mono (fun o st ho => ?_) dispatched)
  cases o with
  | ok o =>
    change Accounted _ _ _ _ _ (withAllow a.dispatch r o.response).status
    rw [withAllow_status]
    exact ho
  | error e =>
    change Accounted _ _ _ _ _ (withAllow a.dispatch r e.response).status
    rw [withAllow_status]
    exact ho

/-- A known caller who asks for the comments of what is no id is told that this is no id. -/
theorem answer_malformed (config : Config) (draw : Draw) {u : User} (known : s.Knows r u)
    (hop : r.operation? = some .comments) (unnamed : r.subject? = none) :
    ((answer config draw r).run Faults.none s).1.response.status = 400 := by
  refine Plan.wp_run (Q := fun (o : Outcome) _ => o.response.status = 400)
    (Faults.within_none False) (wp_answer known hop fun captures named => ?_)
  unfold Operation.handler listComments
  rw [Action.wp_bind]
  unfold guardIssue
  rw [named, unnamed]
  exact rfl

end Requests

/-- Whatever the store holds and whatever storage fails at, an operation answers with a status
that is documented for it or with one of three that are not. One of those is in every request
for the comments of what is no id: the answer is 400, and 400 is not documented. -/
theorem handle_documented (config : Config) (draw : Draw) (faults : Faults) (r : Request)
    (s : Service) (op : Operation) (hop : r.operation? = some op) :
    ((s.handle config draw faults r).1.status ∈ op.returns
      ∨ Undocumented s.store draw r (faults ≠ Faults.none) op
        (s.handle config draw faults r).1.status)
    ∧ (∀ u, s.store.Knows r u → op = .comments → r.subject? = none →
      (s.handle config draw Faults.none r).1.status = 400 ∧ 400 ∉ op.returns) := by
  have status (faults : Faults) : (s.handle config draw faults r).1.status =
      ((answer config draw r).run faults s.store).1.response.status :=
    stamp_status draw r _
  refine ⟨?_, fun u known comments unnamed => ?_⟩
  · rw [status]
    exact answer_accounted config draw faults s.store hop
  · subst comments
    refine ⟨(status _).trans (answer_malformed config draw known hop unnamed), ?_⟩
    rw [Operation.mem_returns]
    decide

open Sample in
/-- An issue is got with a documented status, and so is the failure of storage to find it. -/
theorem handle_documented_get :
    (filed.handle config (draw Uuid.zero) Faults.none (onIssue "GET" {})).1.status ∈
        Operation.returns .get
      ∧ (filed.handle config (draw Uuid.zero) (fun _ => some .closed) (onIssue "GET" {})).1.status ∈
        Operation.returns .get := by
  have hop : (onIssue "GET" {}).operation? = some .get := by decide +kernel
  have other {fails : Prop} {n : Nat} :
      ¬ Undocumented filed.store (draw Uuid.zero) (onIssue "GET" {}) fails .get n := by
    rintro (_ | _ | ⟨_, writes | writes⟩)
    all_goals cases writes
  have documented (faults : Faults) := (handle_documented config (draw Uuid.zero) faults
    (onIssue "GET" {}) filed .get hop).1.resolve_right other
  exact ⟨documented _, documented _⟩

open Sample in
/-- The owner of an issue who asks for the comments of something else gets a status that is not
documented. -/
theorem handle_malformed_undocumented :
    (request "GET" "/api/v1/issues/x/comments" {}).operation? = some .comments
      ∧ (filed.handle config (draw Uuid.zero) Faults.none
        (request "GET" "/api/v1/issues/x/comments" {})).1.status = 400
      ∧ 400 ∉ Operation.returns .comments := by
  refine ⟨by decide +kernel, ?_, ?_⟩
  · rw [filed_eq]
    decide +kernel
  · rw [Operation.mem_returns]
    decide

end Service
end IssueTracker
