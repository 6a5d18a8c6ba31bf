import IssueTracker.Proofs.Alike
import IssueTracker.Proofs.Listings
import IssueTracker.Proofs.Lockstep

/-! What callers are answered tells them nothing of the projects that are closed to them.
Two stores that are alike to a user answer the user's requests alike, step by step, even
when both meet the same failures; and a request on an issue of a closed project is refused
in the same words, whatever is in its body and whatever is in the issue. -/

namespace IssueTracker

namespace Store.Twins

variable {u : User} {s t : Store}

theorem listed (h : Twins u s t) (config : Config) (q : ListQuery) :
    s.listed config u q = t.listed config u q := by
  have order : s.keysLe (Service.keysOf q) = t.keysLe (Service.keysOf q) := by
    funext a b
    rw [Bool.eq_iff_iff, h.left.untouched.keysLe (Service.keysOf_sorts q),
      h.right.untouched.keysLe (Service.keysOf_sorts q)]
  rw [Store.listed, Store.listed, sorted, sorted, order, h.left.untouched.selected,
    h.right.untouched.selected, h.alike.issues]

end Store.Twins

namespace Service

/-- Both plans come to the same, wherever they end. -/
abbrev Same {α : Type} (a b : α) (_ _ : Session) : Prop := a = b

section Handlers

variable {u : User} {s t : Store} {c : Context}

theorem lockstep_ensureAccess (h : Store.Twins u s t) {α β : Type}
    {Q : α → β → Session → Session → Prop} {project : Uuid} {f : Unit → Action α}
    {g : Unit → Action β}
    (next : s.Entitles u project → Action.Lockstep Q (f ()) (g ()) ⟨s, none⟩ ⟨t, none⟩) :
    Action.Lockstep Q (ensureAccess u project >>= f) (ensureAccess u project >>= g)
      ⟨s, none⟩ ⟨t, none⟩ := by
  refine .bind ?_
  unfold ensureAccess
  split
  · next admin => exact .pure (next (.inl admin))
  · refine .fetch (h.left.untouched.hasAccess _ _) (h.right.untouched.hasAccess _ _) ?_
    rw [← h.grants]
    cases granted : s.grants project u.id with
    | false => exact .refused _
    | true => exact .pure (next (Store.entitles_iff.2 (.inr granted)))

/-- The issue that the path names, if there is one, is open to the user in both stores. -/
def Visible (u : User) (s t : Store) (id : Uuid) : Prop :=
  ∀ i, i ∈ s.issues ∨ i ∈ t.issues → i.id = id → s.Entitles u i.project

theorem lockstep_guardIssue (h : Store.Twins c.user s t) {α β : Type}
    {Q : α → β → Session → Session → Prop} {f : Issue → Action α} {g : Issue → Action β}
    (visible : ∀ id, pathId? c.captures = some id → Visible c.user s t id)
    (next : ∀ i ∈ s.issuesFor c.user, pathId? c.captures = some i.id →
      Action.Lockstep Q (f i) (g i) ⟨s, none⟩ ⟨t, none⟩) :
    Action.Lockstep Q (guardIssue c >>= f) (guardIssue c >>= g) ⟨s, none⟩ ⟨t, none⟩ := by
  refine .bind ?_
  unfold guardIssue
  refine .require (fun id hid => ⟨id, hid, ?_⟩) id
  refine .fetch h.left.untouched.acquire h.right.untouched.acquire ?_
  refine .fetch (h.left.untouched.findIssue id) (h.right.untouched.findIssue id) ?_
  rw [← h.findIssueRow (visible id hid)]
  refine .require (fun i hi => ⟨i, hi, ?_⟩) fun hn => hn
  obtain ⟨mem, rfl⟩ := (h.left.sound.findIssueRow_iff h.left.untouched).1 hi
  refine lockstep_ensureAccess h fun access => .pure ?_
  exact next i (Store.mem_issuesFor.2 ⟨mem, access⟩) hid

/-- An issue is still there when the comments on it are gone. -/
theorem removeIssue_cleared {i : Issue} {n : Nat} {s' : Store} (settled : s.Settled)
    (hi : i ∈ s.issues) (cleared : Store.removeComments .issue i.id s = (.ok n, s')) :
    (Store.removeIssue i.id s').1 = .ok true := by
  obtain ⟨ns, rfl⟩ := settled.untouched.removeComments cleared
  have found := settled.sound.findIssueRow settled.untouched hi
  rw [Store.removeIssue, Query.write_answer, (settled.untouched.of_marks (by rfl)).need, ok_bind]
  change Except.ok (s.findIssueRow i.id).isSome = _
  rw [found]
  rfl

/-- No issue and no comment has the id. -/
def Fresh (id : Uuid) (s : Store) : Prop :=
  (∀ i ∈ s.issues, i.id ≠ id) ∧ ∀ k ∈ s.comments, k.id ≠ id

variable (h : Store.Twins c.user s t)
include h

theorem lockstep_list :
    Action.Lockstep Same (listIssues c) (listIssues c) ⟨s, none⟩ ⟨t, none⟩ := by
  unfold listIssues
  refine .fetch h.left.untouched.acquire h.right.untouched.acquire ?_
  refine .require (fun q hq => ⟨q, hq, ?_⟩) id
  extract_lets filter page rest
  have listed : Action.Lockstep Same (rest ()) (rest ()) ⟨s, none⟩ ⟨t, none⟩ := by
    refine .fetch h.left.untouched.countIssues h.right.untouched.countIssues ?_
    rw [h.listed]
    refine .ask ?_ fun _ _ => .pure rfl
    rw [h.left.untouched.pageIssues, h.right.untouched.pageIssues, h.listed]
  cases q.project with
  | none => exact listed
  | some project => exact lockstep_ensureAccess h fun _ => listed

theorem lockstep_create (fresh : Fresh c.draw.id s) (fresh' : Fresh c.draw.id t) :
    Action.Lockstep Same (createIssue c) (createIssue c) ⟨s, none⟩ ⟨t, none⟩ := by
  unfold createIssue
  refine .require (fun p hp => ⟨p, hp, ?_⟩) id
  refine .require (fun id hid => ⟨id, hid, ?_⟩) id
  dsimp only
  split
  · exact .refused _
  refine .fetch h.left.untouched.acquire h.right.untouched.acquire ?_
  refine .fetch (h.left.untouched.findTarget_eq id) (h.right.untouched.findTarget_eq id) ?_
  refine .require (fun x hx => ?_) fun hn => ?_
  · obtain ⟨y, hy, same, home⟩ := h.findTargetRow hx
    refine ⟨y, hy, ?_⟩
    -- of the target only what both stores agree on is used
    have made : newIssue p y c.user.id c.draw = newIssue p x c.user.id c.draw := by
      rw [newIssue, newIssue, same, home]
    rw [home, made]
    refine lockstep_ensureAccess h fun access => ?_
    refine .ask ?_ fun _ _ => .pure rfl
    have mem := ((Store.find?_key_iff h.left.sound.targetIds).1 hx).1
    exact h.addIssue access mem ⟨rfl, rfl⟩ fresh.1 fresh'.1
  · have none_ := h.findTargetRow_isNone id
    rw [hn] at none_
    simpa using none_.symm

variable (visible : ∀ id, pathId? c.captures = some id → Visible c.user s t id)
include visible

theorem lockstep_get :
    Action.Lockstep Same (getIssue c) (getIssue c) ⟨s, none⟩ ⟨t, none⟩ :=
  lockstep_guardIssue h visible fun _ _ _ => .pure rfl

theorem lockstep_update :
    Action.Lockstep Same (updateIssue c) (updateIssue c) ⟨s, none⟩ ⟨t, none⟩ := by
  refine lockstep_guardIssue h visible fun i hi _ => ?_
  refine .require (fun p hp => ⟨p, hp, ?_⟩) id
  dsimp only
  split
  · exact .refused _
  refine .ask (h.updateIssue hi p _) fun found _ => ?_
  exact .require (fun j hj => ⟨j, hj, .pure rfl⟩) id

theorem lockstep_delete :
    Action.Lockstep Same (deleteIssue c) (deleteIssue c) ⟨s, none⟩ ⟨t, none⟩ := by
  refine lockstep_guardIssue h visible fun i hi _ => ?_
  refine .begin ?_
  refine .ask (h.removeComments hi) fun n hn => ?_
  have hi' : i ∈ t.issuesFor c.user := h.alike.issues ▸ hi
  refine .ask ?_ fun found _ => ?_
  · have left := removeIssue_cleared h.left (Store.mem_issuesFor.1 hi).1 (Prod.ext hn rfl)
    have right := removeIssue_cleared h.right (Store.mem_issuesFor.1 hi').1
      (Prod.ext (h.removeComments hi ▸ hn) rfl)
    exact left.trans right.symm
  cases found with
  | false => exact .refused _
  | true => exact .commit (.pure rfl)

theorem lockstep_comments :
    Action.Lockstep Same (listComments c) (listComments c) ⟨s, none⟩ ⟨t, none⟩ := by
  refine lockstep_guardIssue h visible fun i hi _ => ?_
  exact .ask (h.listComments hi) fun _ _ => .pure rfl

theorem lockstep_addComment (fresh : Fresh c.draw.id s) (fresh' : Fresh c.draw.id t) :
    Action.Lockstep Same (addComment c) (addComment c) ⟨s, none⟩ ⟨t, none⟩ := by
  refine lockstep_guardIssue h visible fun i hi _ => ?_
  refine .require (fun d hd => ⟨d, hd, ?_⟩) id
  dsimp only
  split
  · exact .refused _
  exact .ask (h.addComment fresh.2 fresh'.2) fun _ _ => .pure rfl

theorem lockstep_handler (fresh : Fresh c.draw.id s) (fresh' : Fresh c.draw.id t)
    (op : Operation) :
    Action.Lockstep Same (op.handler c) (op.handler c) ⟨s, none⟩ ⟨t, none⟩ := by
  cases op with
  | list => exact lockstep_list h
  | create => exact lockstep_create h fresh fresh'
  | get => exact lockstep_get h visible
  | update => exact lockstep_update h visible
  | delete => exact lockstep_delete h visible
  | comments => exact lockstep_comments h visible
  | addComment => exact lockstep_addComment h visible fresh fresh'

end Handlers

section Requests

variable {draw : Draw} {r : Request} {s t : Store} {u : User}

theorem lockstep_dispatch (config : Config) (h : Store.Twins u s t) (known : s.Knows r u)
    (fresh : Fresh draw.id s) (fresh' : Fresh draw.id t)
    (visible : ∀ id, r.subject? = some id → Visible u s t id) {a : Aim}
    (ha : Aim.ofPath? r.uri.path = some a) :
    Action.Lockstep Same (dispatch config draw r a.dispatch) (dispatch config draw r a.dispatch)
      ⟨s, none⟩ ⟨t, none⟩ := by
  have known' : t.Knows r u := (h.caller? r).symm.trans known
  unfold dispatch authenticate
  unfold Store.Knows Store.caller? at known known'
  split
  · next none_ =>
    rw [none_] at known
    cases known
  next token some_ =>
  rw [some_] at known known'
  dsimp only at known known'
  refine .fetch (x := some u) (y := some u) (Prod.ext known ?_) (Prod.ext known' ?_) ?_
  · rw [h.left.untouched.userOfToken]
  · rw [h.right.untouched.userOfToken]
  dsimp only
  rw [a.handler?_dispatch]
  cases hop : a.operation? r.method with
  | none => exact .pure rfl
  | some op =>
    have handled : Action.Lockstep Same (op.handler ⟨config, draw, r, a.captures, u⟩)
        (op.handler ⟨config, draw, r, a.captures, u⟩) ⟨s, none⟩ ⟨t, none⟩ := by
      refine lockstep_handler h (fun id hid => visible id ?_) fresh fresh' op
      rwa [Request.subject?, ha, Option.bind_some, ← a.pathId?_captures]
    refine .bind (handled.mono fun x y _ _ same => ?_)
    exact .pure (congrArg (fun reply => (⟨reply.response, reply.submit⟩ : Outcome)) same)

theorem lockstep_answer (config : Config) (h : Store.Twins u s t) (known : s.Knows r u)
    (fresh : Fresh draw.id s) (fresh' : Fresh draw.id t)
    (visible : ∀ id, r.subject? = some id → Visible u s t id) :
    Plan.Lockstep Same (answer config draw r) (answer config draw r) ⟨s, none⟩ ⟨t, none⟩ := by
  unfold answer
  rw [Aim.find?_issues]
  cases ha : Aim.ofPath? r.uri.path with
  | none => exact .done rfl
  | some a =>
    have dispatched := lockstep_dispatch config h known fresh fresh' visible ha
    refine .bind (Plan.Lockstep.mono dispatched fun x y _ _ both => ?_)
    match x, y, both with
    | .ok x, .ok _, rfl => exact .done rfl
    | .error e, .error _, rfl => exact .done rfl

end Requests

theorem run_settled (config : Config) (es : List Event) : (run config es).store.Settled :=
  ⟨run_untouched config es, (run_intact config es).sound, run_keyed config es⟩

/-- After two histories whose stores are alike to a user, the user's requests are answered
alike, as long as they name no issue of a project that is closed to the user. A request
that does is refused, whatever is in its body and whatever is in the issue. -/
theorem handle_noninterference (config before before' : Config) (es fs : List Event) (u : User)
    (alike : Store.Alike u (run before es).store (run before' fs).store) (draw : Draw)
    (r : Request) (known : (run before es).store.Knows r u) :
    (Fresh draw.id (run before es).store → Fresh draw.id (run before' fs).store →
      (∀ id, r.subject? = some id → Visible u (run before es).store (run before' fs).store id) →
      ∀ faults, ((run before es).handle config draw faults r).1 =
        ((run before' fs).handle config draw faults r).1)
    ∧ ∀ op id, r.operation? = some op → r.subject? = some id →
      ∀ i ∈ (run before es).store.issues, i.id = id →
      ¬ (run before es).store.Entitles u i.project → ∀ body,
        ((run before es).handle config draw Faults.none { r with body := body }).1 =
          stamp draw r Refusal.forbidden.response := by
  have settled := run_settled before es
  constructor
  · intro fresh fresh' visible faults
    have twins : Store.Twins u _ _ := ⟨settled, run_settled before' fs, alike⟩
    have same := (lockstep_answer config twins known fresh fresh' visible).runFrom faults
    exact congrArg (fun o : Outcome => stamp draw r o.response) same
  · rintro op id hop named i hi rfl closed body
    have found := settled.sound.findIssueRow settled.untouched hi
    have refused := answer_forbidden (r := { r with body := body }) config draw settled.untouched
      known hop named found (mt settled.untouched.admits_iff.1 closed)
    exact congrArg (fun o : Outcome => stamp draw r o.response) refused

open Sample in
/-- The stranger's list is the same whether or not the owner's issue was filed, and the
stranger is kept from reading it. -/
theorem handle_noninterference_stranger :
    respond config (worked ++ arrival) (draw Uuid.zero)
        (byStranger (request "GET" "/api/v1/issues" {})) =
      respond config (founding ++ arrival) (draw Uuid.zero)
        (byStranger (request "GET" "/api/v1/issues" {}))
    ∧ (respond config (worked ++ arrival) (draw Uuid.zero) (byStranger (onIssue "GET" {}))).status =
      403 := by
  obtain ⟨s, hs⟩ : ∃ s, (run config (worked ++ arrival)).store = s := ⟨_, rfl⟩
  obtain ⟨t, ht⟩ : ∃ t, (run config (founding ++ arrival)).store = t := ⟨_, rfl⟩
  obtain ⟨list, hl⟩ : ∃ r, byStranger (request "GET" "/api/v1/issues" {}) = r := ⟨_, rfl⟩
  obtain ⟨get, hg⟩ : ∃ r, byStranger (onIssue "GET" {}) = r := ⟨_, rfl⟩
  have rows : s.users = t.users ∧ s.tokens = t.tokens ∧ s.projects = t.projects
      ∧ s.members = t.members ∧ s.issuesFor stranger = t.issuesFor stranger
      ∧ s.commentsFor stranger = t.commentsFor stranger
      ∧ s.targets.map (fun x => (x.id, x.project)) = t.targets.map fun x => (x.id, x.project) := by
    subst hs ht
    rw [run_arrival]
    decide +kernel
  have hidden : (∀ i ∈ s.issues, i.id ≠ Uuid.zero) ∧ s.comments = [] ∧ t.issues = []
      ∧ t.comments = [] ∧ ∃ i ∈ s.issues, i.id = issue ∧ ¬ s.Entitles stranger i.project := by
    subst hs ht
    rw [run_arrival]
    decide +kernel
  have asked : s.caller? list = .ok (some stranger) ∧ s.caller? get = .ok (some stranger)
      ∧ list.subject? = none ∧ get.operation? = some .get ∧ get.subject? = some issue := by
    subst hs hl hg
    rw [run_arrival]
    decide +kernel
  obtain ⟨users, tokens, projects, members, issues, comments, targets⟩ := rows
  obtain ⟨fresh, silent, none_, silent', i, hi, hid, closed⟩ := hidden
  obtain ⟨lists, gets, all, op, one⟩ := asked
  have alike : Store.Alike stranger s t := by
    refine ⟨by simp [users], by simp [tokens], by simp [projects], by simp [members],
      fun id home => ?_, issues, comments⟩
    have named (l : List Target) : (∃ x ∈ l, x.id = id ∧ x.project = home) ↔
        (id, home) ∈ l.map fun x => (x.id, x.project) := by simp
    rw [named, named, targets]
  rw [hl, hg]
  subst hs ht
  constructor
  · refine (handle_noninterference config config config _ _ stranger alike _ _ lists).1 ?_ ?_ ?_ _
    · exact ⟨fresh, by simp [silent]⟩
    · exact ⟨by simp [none_], by simp [silent']⟩
    · simp [all]
  · have refused := (handle_noninterference config config config _ _ stranger alike (draw Uuid.zero)
      _ gets).2 .get issue op one i hi hid closed get.body
    exact (congrArg Response.status refused).trans (stamp_status _ _ _)

end Service
end IssueTracker
