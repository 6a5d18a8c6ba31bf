import IssueTracker.Proofs.Routing
import IssueTracker.Proofs.Wp
import IssueTracker.Proofs.Writes

/-! What one request can do to the store, whatever it fails at and whatever the store
holds: nothing, or one of four writes, each with all that was checked before it. Every
statement on what requests keep is read off `handle_eq`. -/

namespace IssueTracker
namespace Store

/-- Whose token the request carries. -/
def caller? (s : Store) (r : Request) : Except DbError (Option User) :=
  match r.bearer? with
  | none => .ok none
  | some token => (Query.pooled (userOfToken (Service.tokenDigest token)) s).1

def Knows (s : Store) (r : Request) (u : User) : Prop :=
  s.caller? r = .ok (some u)

def Admits (s : Store) (u : User) (project : Uuid) : Prop :=
  u.admin ∨ (hasAccess project u.id s).1 = .ok true

/-- The path names this issue, and its caller may touch it. -/
structure Reaches (s : Store) (r : Request) (u : User) (id : Uuid) (i : Issue) : Prop where
  known : s.Knows r u
  named : r.subject? = some id
  found : (findIssue id s).1 = .ok (some i)
  admitted : s.Admits u i.project

end Store

namespace Service

/-- The outcome of a request and the store after it. -/
inductive Effect (draw : Draw) (r : Request) (s : Store) : Outcome → Store → Prop where
  | nothing {a : Response} (reads : a.isSuccess → r.method = "GET" ∨ r.method = "HEAD") :
    Effect draw r s ⟨a, none⟩ s
  | create {u : User} {p : Patch} {id : Uuid} {t : Target} {i : Issue} {s' : Store}
    (op : r.operation? = some .create) (known : s.Knows r u)
    (entity : r.entity? Patch.codec = some p) (named : targetId? p = some id)
    (valid : p.creationViolations = []) (found : (Store.findTarget id s).1 = .ok (some t))
    (admitted : s.Admits u t.project)
    (added : Store.addIssue (newIssue p t u.id draw) s = (.ok i, s')) :
    Effect draw r s ⟨Response.of 201 (.json (Issue.codec.encode i)), some i.target⟩ s'
  | update {u : User} {p : Patch} {id : Uuid} {i j : Issue} {s' : Store}
    (op : r.operation? = some .update) (reached : s.Reaches r u id i)
    (entity : r.entity? Patch.codec = some p) (valid : p.violations = [])
    (updated : Store.updateIssue (p.apply i) draw.now s = (.ok (some j), s')) :
    Effect draw r s ⟨Response.of 200 (.json (Issue.codec.encode j)),
      if p.affectsSummary i then some j.target else none⟩ s'
  | delete {u : User} {id : Uuid} {i : Issue} {n : Nat} {s' s'' : Store}
    (op : r.operation? = some .delete) (reached : s.Reaches r u id i)
    (cleared : Store.removeComments .issue i.id s = (.ok n, s'))
    (removed : Store.removeIssue i.id s' = (.ok true, s'')) :
    Effect draw r s ⟨Response.of 204 .empty, some i.target⟩ s''
  | comment {u : User} {id : Uuid} {i : Issue} {d : CommentDraft} {c : Comment} {s' : Store}
    (op : r.operation? = some .addComment) (reached : s.Reaches r u id i)
    (entity : r.entity? CommentDraft.codec = some d) (valid : d.text.isEmpty = false)
    (added : Store.addComment (newComment d i.id u.id draw) s = (.ok c, s')) :
    Effect draw r s ⟨Response.of 201 (.json (Comment.codec.encode c)), none⟩ s'

/-- What follows a refusal: the store is as it was, and the answer is a failure. -/
def Refused (s : Store) (e : Refusal) (st : Session) : Prop :=
  400 ≤ e.status ∧ st.rollback.store = s

theorem ofWrite_status (fallback : String) (e : DbError) :
    400 ≤ (Refusal.ofWrite fallback e).status := by
  unfold Refusal.ofWrite
  split_ifs <;> simp [Refusal.badRequest]

theorem refused_at {s : Store} {e : Refusal} (h : 400 ≤ e.status) : Refused s e ⟨s, none⟩ :=
  ⟨h, rfl⟩

section Handlers

variable {fails : Prop} {c : Context} {s : Store} {R : Refusal → Session → Prop}

theorem wp_ensureAccess {α : Type} {u : User} {project : Uuid} {f : Unit → Action α}
    {Q : α → Session → Prop}
    (admitted : s.Admits u project → Action.wp fails (f ()) Q R ⟨s, none⟩)
    (refused : ∀ e : Refusal, 400 ≤ e.status → R e ⟨s, none⟩) :
    Action.wp fails (ensureAccess u project >>= f) Q R ⟨s, none⟩ := by
  rw [Action.wp_bind]
  unfold ensureAccess
  split
  · next ha => exact admitted (.inl ha)
  · refine Action.wp_fetch rfl (fun allowed h => ?_) fun _ => refused _ (by decide)
    cases allowed with
    | false => exact refused _ (by decide)
    | true => exact admitted (.inr h)

theorem wp_guardIssue {α : Type} {f : Issue → Action α} {Q : α → Session → Prop}
    (reached : ∀ id i, pathId? c.captures = some id → (Store.findIssue id s).1 = .ok (some i) →
      s.Admits c.user i.project → Action.wp fails (f i) Q R ⟨s, none⟩)
    (refused : ∀ e : Refusal, 400 ≤ e.status → R e ⟨s, none⟩) :
    Action.wp fails (guardIssue c >>= f) Q R ⟨s, none⟩ := by
  rw [Action.wp_bind]
  unfold guardIssue
  refine Action.wp_require (fun id hid => ?_) fun _ => refused _ (by decide)
  refine Action.wp_fetch rfl (fun _ _ => ?_) fun _ => refused _ (by decide)
  refine Action.wp_fetch rfl (fun found hf => ?_) fun _ => refused _ (by decide)
  refine Action.wp_require (fun i hi => ?_) fun _ => refused _ (by decide)
  exact wp_ensureAccess (fun ha => reached id i hid (hi ▸ hf) ha) refused

end Handlers

section Operations

variable {c : Context} {s : Store}

/-- The handler of an operation does to the store what the operation may do. -/
def Keeps (c : Context) (s : Store) (op : Operation) : Prop :=
  Action.wp True (op.handler c)
    (fun a st => Effect c.draw c.request s ⟨a.response, a.submit⟩ st.rollback.store)
    (Refused s) ⟨s, none⟩

theorem badRequest_status (m : String) : 400 ≤ (Refusal.badRequest m).status :=
  Nat.le_refl 400

theorem reads_of {op : Operation} (h : c.request.operation? = some op) (get : op.method = "GET") :
    c.request.method = "GET" ∨ c.request.method = "HEAD" := by
  rcases Request.method_of_operation? h with h | h
  · exact .inl (h.trans get)
  · exact .inr h.1

theorem keeps_list (op : c.request.operation? = some .list) : Keeps c s .list := by
  unfold Keeps Operation.handler listIssues
  refine Action.wp_fetch rfl (fun _ _ => ?_) fun _ => refused_at (by decide)
  refine Action.wp_require (fun q _ => ?_) fun _ => refused_at (by decide)
  extract_lets filter page answer
  have answered : Action.wp True (answer ())
      (fun a st => Effect c.draw c.request s ⟨a.response, a.submit⟩ st.rollback.store)
      (Refused s) ⟨s, none⟩ := by
    refine Action.wp_fetch rfl (fun _ _ => ?_) fun _ => refused_at (by decide)
    refine Action.wp_fetch rfl (fun _ _ => ?_) fun _ => refused_at (by decide)
    exact .nothing fun _ => reads_of op rfl
  split
  · exact wp_ensureAccess (fun _ => answered) fun _ => refused_at
  · exact answered

theorem keeps_create (op : c.request.operation? = some .create) (known : s.Knows c.request c.user) :
    Keeps c s .create := by
  unfold Keeps Operation.handler createIssue
  refine Action.wp_require (fun p hp => ?_) fun _ => refused_at (by decide)
  refine Action.wp_require (fun id hid => ?_) fun _ => refused_at (by decide)
  dsimp only
  split
  · exact refused_at (badRequest_status _)
  next hv =>
  refine Action.wp_fetch rfl (fun _ _ => ?_) fun _ => refused_at (by decide)
  refine Action.wp_fetch rfl (fun found hf => ?_) fun _ => refused_at (by decide)
  refine Action.wp_require (fun t ht => ?_) fun _ => refused_at (by decide)
  refine wp_ensureAccess (fun ha => ?_) fun _ => refused_at
  refine Action.wp_ask (fun i hi => ?_) (fun e he => ⟨ofWrite_status _ e, ?_⟩)
    fun _ e => refused_at (ofWrite_status _ e)
  · exact .create op known hp hid (by simpa using hv) (ht ▸ hf) ha (Prod.ext hi rfl)
  · exact Query.write_error he

theorem keeps_get (op : c.request.operation? = some .get) : Keeps c s .get := by
  unfold Keeps Operation.handler getIssue
  refine wp_guardIssue (fun _ _ _ _ _ => ?_) fun _ => refused_at
  exact .nothing fun _ => reads_of op rfl

theorem keeps_update (op : c.request.operation? = some .update) (known : s.Knows c.request c.user)
    (named : pathId? c.captures = c.request.subject?) : Keeps c s .update := by
  unfold Keeps Operation.handler updateIssue
  refine wp_guardIssue (fun id i hid hf ha => ?_) fun _ => refused_at
  refine Action.wp_require (fun p hp => ?_) fun _ => refused_at (by decide)
  dsimp only
  split
  · exact refused_at (badRequest_status _)
  next hv =>
  refine Action.wp_ask (fun found hu => ?_) (fun e he => ⟨ofWrite_status _ e, ?_⟩)
    fun _ e => refused_at (ofWrite_status _ e)
  · refine Action.wp_require (fun j hj => ?_) fun hn => ⟨by decide, ?_⟩
    · exact .update op ⟨known, named ▸ hid, hf, ha⟩ hp (by simpa using hv) (Prod.ext (hj ▸ hu) rfl)
    · rcases Store.updateIssue_cases hf p c.draw.now with same | ⟨j, hj⟩
      · exact same
      · rw [hu, hn] at hj
        cases hj
  · rcases Store.updateIssue_cases hf p c.draw.now with same | ⟨j, hj⟩
    · exact same
    · rw [he] at hj
      cases hj

theorem keeps_delete (op : c.request.operation? = some .delete) (known : s.Knows c.request c.user)
    (named : pathId? c.captures = c.request.subject?) : Keeps c s .delete := by
  unfold Keeps Operation.handler deleteIssue
  refine wp_guardIssue (fun id i hid hf ha => ?_) fun _ => refused_at
  -- from here on the session has the store to go back to
  refine Action.wp_begin ?_ fun _ => refused_at (by decide)
  refine Action.wp_ask (fun n hn => ?_) (fun e _ => ⟨ofWrite_status _ e, rfl⟩)
    fun _ e => ⟨ofWrite_status _ e, rfl⟩
  refine Action.wp_ask (fun found hr => ?_) (fun e _ => ⟨ofWrite_status _ e, rfl⟩)
    fun _ e => ⟨ofWrite_status _ e, rfl⟩
  cases found with
  | false => exact ⟨by decide, rfl⟩
  | true =>
    refine Action.wp_commit ?_ fun _ e => ⟨ofWrite_status _ e, rfl⟩
    obtain ⟨s', hs'⟩ : ∃ s', (Store.removeComments .issue i.id s).2 = s' := ⟨_, rfl⟩
    obtain ⟨s'', hs''⟩ : ∃ s'', (Store.removeIssue i.id s').2 = s'' := ⟨_, rfl⟩
    have effect : Effect c.draw c.request s ⟨Response.of 204 .empty, some i.target⟩ s'' :=
      .delete op ⟨known, named ▸ hid, hf, ha⟩ (Prod.ext hn hs') (Prod.ext (hs' ▸ hr) hs'')
    subst hs' hs''
    simpa only [Action.wp_pure, Session.rollback, Option.getD_none, Reply.response] using effect

theorem keeps_comments (op : c.request.operation? = some .comments) : Keeps c s .comments := by
  unfold Keeps Operation.handler listComments
  refine wp_guardIssue (fun _ _ _ _ _ => ?_) fun _ => refused_at
  refine Action.wp_fetch rfl (fun _ _ => ?_) fun _ => refused_at (by decide)
  exact .nothing fun _ => reads_of op rfl

theorem keeps_addComment (op : c.request.operation? = some .addComment)
    (known : s.Knows c.request c.user) (named : pathId? c.captures = c.request.subject?) :
    Keeps c s .addComment := by
  unfold Keeps Operation.handler addComment
  refine wp_guardIssue (fun id i hid hf ha => ?_) fun _ => refused_at
  refine Action.wp_require (fun d hd => ?_) fun _ => refused_at (by decide)
  dsimp only
  split
  · exact refused_at (badRequest_status _)
  next hv =>
  refine Action.wp_ask (fun k hk => ?_) (fun e he => ⟨ofWrite_status _ e, ?_⟩)
    fun _ e => refused_at (ofWrite_status _ e)
  · exact .comment op ⟨known, named ▸ hid, hf, ha⟩ hd (by simpa using hv) (Prod.ext hk rfl)
  · exact Query.write_error he

theorem keeps {op : Operation} (h : c.request.operation? = some op)
    (known : s.Knows c.request c.user) (named : pathId? c.captures = c.request.subject?) :
    Keeps c s op := by
  cases op with
  | list => exact keeps_list h
  | create => exact keeps_create h known
  | get => exact keeps_get h
  | update => exact keeps_update h known named
  | delete => exact keeps_delete h known named
  | comments => exact keeps_comments h
  | addComment => exact keeps_addComment h known named

end Operations

section Requests

variable {config : Config} {draw : Draw} {r : Request} {s : Store}

theorem nothing_of_failure {a : Response} (h : 400 ≤ a.status) : Effect draw r s ⟨a, none⟩ s := by
  refine .nothing fun hs => ?_
  simp only [Response.isSuccess, Bool.and_eq_true, decide_eq_true_eq] at hs
  omega

theorem wp_authenticate {α : Type} {fails : Prop} {f : Option User → Action α}
    {Q : α → Session → Prop} {R : Refusal → Session → Prop}
    (asked : ∀ o, s.caller? r = .ok o → Action.wp fails (f o) Q R ⟨s, none⟩)
    (failed : fails ∨ (∃ e, s.caller? r = .error e) → R .storage ⟨s, none⟩) :
    Action.wp fails (authenticate r >>= f) Q R ⟨s, none⟩ := by
  unfold authenticate
  unfold Store.caller? at asked failed
  split
  · next none_ =>
    rw [none_] at asked
    exact asked none rfl
  · next token some_ =>
    rw [some_] at asked failed
    refine Action.wp_fetch ?_ asked failed
    simp only [Query.pooled, Store.userOfToken, Query.read]
    split <;> rfl

theorem withAllow_status (d : Dispatch Handler) (a : Response) :
    (withAllow d r a).status = a.status := by
  unfold withAllow
  split <;> rfl

theorem wp_dispatch {a : Aim} (ha : Aim.ofPath? r.uri.path = some a) :
    Action.wp True (dispatch config draw r a.dispatch)
      (fun o st => Effect draw r s ⟨withAllow a.dispatch r o.response, o.submit⟩ st.rollback.store)
      (Refused s) ⟨s, none⟩ := by
  unfold dispatch
  refine wp_authenticate (fun caller hu => ?_) fun _ => refused_at (by decide)
  cases caller with
  | none => exact refused_at (by decide)
  | some u =>
    have route := a.handler?_dispatch r.method
    dsimp only
    cases hop : a.operation? r.method with
    | none =>
      rw [hop, Option.map_none] at route
      rw [route]
      exact nothing_of_failure (by rw [withAllow_status]; decide)
    | some op =>
      rw [hop, Option.map_some] at route
      have plain (o : Response) : withAllow a.dispatch r o = o := by rw [withAllow, route]
      rw [route, Action.wp_bind]
      simp only [plain]
      have named : r.operation? = some op := by rw [Request.operation?, ha, Option.bind_some, hop]
      refine keeps named hu ?_
      rw [Request.subject?, ha, Option.bind_some]
      exact a.pathId?_captures

/-- Whatever a request meets, its outcome and the store after it are one of its effects. -/
theorem answer_effect (config : Config) (draw : Draw) (faults : Faults) (r : Request) (s : Store) :
    Effect draw r s ((answer config draw r).run faults s).1
      ((answer config draw r).run faults s).2 := by
  refine Plan.wp_run (Q := Effect draw r s) faults.within_true ?_
  unfold answer
  rw [Aim.find?_issues]
  cases ha : Aim.ofPath? r.uri.path with
  | none => exact nothing_of_failure (by decide)
  | some a =>
    refine (Plan.wp_bind _ _ _ _).2 (Plan.wp_mono (fun o st h => ?_) (wp_dispatch ha))
    cases o with
    | ok o => exact h
    | error e =>
      obtain ⟨failed, hst⟩ := h
      rw [← hst]
      exact nothing_of_failure (by rw [withAllow_status]; exact failed)

theorem stamp_status (draw : Draw) (r : Request) (a : Response) :
    (stamp draw r a).status = a.status := by
  unfold stamp
  dsimp only
  split <;> rfl

theorem stamp_isSuccess (draw : Draw) (r : Request) (a : Response) :
    (stamp draw r a).isSuccess = a.isSuccess := by
  rw [Response.isSuccess, stamp_status, Response.isSuccess]

theorem stamp_body (draw : Draw) (a : Response) (h : r.method ≠ "HEAD") :
    (stamp draw r a).body = a.body := by
  unfold stamp
  rw [beq_eq_false_iff_ne.2 h]
  rfl

theorem handle_eq (config : Config) (draw : Draw) (faults : Faults) (r : Request) (s : Service) :
    ∃ o store, Effect draw r s.store o store ∧ s.handle config draw faults r =
      (stamp draw r o.response, ⟨store, s.queue ++ o.submit.toList⟩) :=
  ⟨_, _, answer_effect config draw faults r s.store, rfl⟩

end Requests

end Service
end IssueTracker
