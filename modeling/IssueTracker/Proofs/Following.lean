import IssueTracker.Proofs.Alike
import IssueTracker.Proofs.Turning

/-! What requests leave alone while others are answered. All of them but those that file an
issue keep the accounts and the projects, and bring no issue and move none
(`Store.Follows`); none of them sees or touches a target. Both are said of each statement
(`Query.Mild`), so they hold of every turn, whichever answers the turns before it had. -/

namespace IssueTracker

/-- An issue, with the project and the target that it is of. -/
def Issue.place (i : Issue) : Uuid × Uuid × Uuid :=
  (i.id, i.project, i.target)

/-- A row that stays in its place takes no other out of it. -/
theorem Issue.places_replaced {i j : Issue} {is : List Issue} (ids : (is.map Issue.id).Nodup)
    (old : i ∈ is) (same : j.place = i.place) :
    (j.replaced is).map place = is.map place := by
  rw [replaced, List.map_map]
  refine List.map_congr_left fun o ho => ?_
  by_cases hit : o.id = j.id
  · have found : o = i := List.inj_on_of_nodup_map ids ho old (hit.trans (congrArg Prod.fst same))
    subst found
    simp [hit, same]
  · simp [hit]

namespace Store

/-- The later store has the accounts and the projects of the earlier one, and no issue that
is not there too, of the same project and target. -/
structure Follows (s x : Store) : Prop where
  untouched : x.Untouched
  users : x.users = s.users
  tokens : x.tokens = s.tokens
  projects : x.projects = s.projects
  members : x.members = s.members
  places : (x.issues.map Issue.place).Sublist (s.issues.map Issue.place)
  ids : (x.issues.map Issue.id).Nodup

namespace Follows

variable {s x y : Store} {i j : Issue} {r : Request}

theorem refl (h : s.Untouched) (sound : s.Sound) : s.Follows s :=
  ⟨h, rfl, rfl, rfl, rfl, List.Sublist.refl _, sound.issueIds⟩

/-- Nothing but targets, comments and numbers was changed. -/
theorem same {x' : Store} (h : s.Follows x) (marks : x'.marks = x.marks) (users : x'.users = x.users)
    (tokens : x'.tokens = x.tokens) (projects : x'.projects = x.projects)
    (members : x'.members = x.members) (issues : x'.issues = x.issues) : s.Follows x' where
  untouched := h.untouched.of_marks marks
  users := users.trans h.users
  tokens := tokens.trans h.tokens
  projects := projects.trans h.projects
  members := members.trans h.members
  places := issues ▸ h.places
  ids := issues ▸ h.ids

theorem caller? (hx : s.Follows x) (hy : s.Follows y) (r : Request) : x.caller? r = y.caller? r := by
  unfold Store.caller?
  cases r.bearer? with
  | none => rfl
  | some token =>
    dsimp only
    rw [hx.untouched.userOfToken, hy.untouched.userOfToken]
    simp only [Store.findUser, hx.users, hx.tokens, hy.users, hy.tokens]

theorem grants (hx : s.Follows x) (hy : s.Follows y) (project user : Uuid) :
    x.grants project user = y.grants project user := by
  simp only [Store.grants, hx.projects, hx.members, hy.projects, hy.members]

/-- An issue that is found at two times is of the same project and target at both. -/
theorem place_eq (sound : s.Sound) (hx : s.Follows x) (hy : s.Follows y) {id : Uuid}
    (found : x.findIssueRow id = some i) (later : y.findIssueRow id = some j) :
    i.id = id ∧ j.id = id ∧ j.project = i.project ∧ j.target = i.target := by
  obtain ⟨hi, rfl, -⟩ := Store.findIssueRow_some found
  obtain ⟨hj, same, -⟩ := Store.findIssueRow_some later
  obtain ⟨i', mi, hi'⟩ := List.mem_map.1 (hx.places.subset (List.mem_map_of_mem hi))
  obtain ⟨j', mj, hj'⟩ := List.mem_map.1 (hy.places.subset (List.mem_map_of_mem hj))
  simp only [Issue.place, Prod.mk.injEq] at hi' hj'
  obtain rfl := sound.eq_of_id mi mj (by rw [hi'.1, hj'.1, same])
  exact ⟨rfl, same, hj'.2.1.symm.trans hi'.2.1, hj'.2.2.symm.trans hi'.2.2⟩

end Follows

namespace Untouched

variable {s : Store} (h : s.Untouched)
include h

theorem retarget (ts : List Target) : (s.retarget ts).Untouched :=
  h.of_marks rfl

/-- An update replaces the row with the id, if there is one and no other row of its target has
its unique id. -/
theorem updateIssue_eq (i : Issue) (now : Timestamp) : Store.updateIssue i now s =
    match s.findIssueRow i.id with
    | none => (.ok none, s)
    | some old =>
      let new := i.written old now
      if s.issues.any fun o => o.id != new.id && new.clashes o then
        (.error (.notUnique s.uniqIdColumns), s)
      else (.ok (some new), { s with issues := new.replaced s.issues }) := by
  unfold Store.updateIssue
  rw [h.need]
  dsimp only
  cases s.findIssueRow i.id with
  | none => rfl
  | some old =>
    have forget : (s.putIssue (i.written old now)).forgetCells .issues (i.written old now).id
        Issue.mutableColumns = s.putIssue (i.written old now) := by
      simp only [forgetCells, putIssue, h.edits, List.filter_nil]
    have read : (s.putIssue (i.written old now)).viewIssue (i.written old now) =
        .ok (i.written old now) :=
      (h.of_marks rfl).view _ _ _ _
    dsimp only
    rw [forget, read]
    rfl

theorem removeComments_eq (kind : CommentKind) (link : Uuid) : Store.removeComments kind link s =
    (.ok (s.comments.filter (s.linked kind link)).length, s.dropComments (s.linked kind link)) := by
  rw [Store.removeComments, Query.write, h.need]
  rfl

theorem removeIssue_eq (id : Uuid) :
    Store.removeIssue id s = (.ok (s.findIssueRow id).isSome, s.dropIssue id) := by
  rw [Store.removeIssue, Query.write, h.need]
  rfl

theorem addComment_eq (c : Comment) : Store.addComment c s =
    if s.comments.any fun o => o.id == c.id then
      (.error (.sameKey (s.columnOf .comments "id")), s)
    else if (s.findUser c.owner).isNone then (.error .foreignKey, s)
    else (.ok c, { s with
      comments := s.comments ++ [c]
      numbers := s.numbers ++ [⟨.comments, c.id, s.nextNumber .comments⟩] }) := by
  have enrolled := enrol_of_full { s with comments := s.comments ++ [c] } h.full .comments c.id
  rw [Store.addComment, Query.write, h.need]
  simp only [ok_bind, throw_bind, enrolled]
  split_ifs with taken owner
  · rfl
  · rfl
  · rfl

theorem listComments_eq (kind : CommentKind) (link : Uuid) :
    Store.listComments kind link s = (.ok (s.commentsOf kind link), s) := by
  refine Prod.ext ?_ rfl
  change (do s.need [.comments]; _) = Except.ok _
  have view : s.viewComment = fun c => pure c := funext fun c => h.view _ _ _ _
  rw [h.need, ok_bind, view, List.mapM_pure, List.map_id']
  rfl

end Untouched

theorem keysLe_retarget (ts : List Target) (s : Store) (ks : List SortKey) :
    (s.retarget ts).keysLe ks = s.keysLe ks := by
  induction ks with
  | nil => rfl
  | cons k ks ih =>
    funext a b
    rw [keysLe, keysLe, ih]
    rfl

end Store

/-- The statement neither sees nor touches targets, and keeps what others rely on. -/
structure Query.Mild {α : Type} (q : Query α) : Prop where
  blind : ∀ ts s, s.Untouched → q (s.retarget ts) = ((q s).1, (q s).2.retarget ts)
  keeps : ∀ s x, Store.Follows s x → s.Follows (q x).2

namespace Store

open Query

theorem mild_read {α : Type} {f : Store → Except DbError α}
    (blind : ∀ ts s, f (s.retarget ts) = f s) : (read f).Mild where
  blind ts s _ := Prod.ext (blind ts s) rfl
  keeps _ _ h := h

theorem mild_acquire : acquire.Mild :=
  mild_read fun _ _ => rfl

theorem mild_userOfToken (digest : String) : (pooled (userOfToken digest)).Mild where
  blind ts s h := by
    rw [h.userOfToken, (h.retarget ts).userOfToken]
    rfl
  keeps s x h := by
    rw [h.untouched.userOfToken]
    exact h

theorem mild_hasAccess (project user : Uuid) : (hasAccess project user).Mild :=
  mild_read fun _ _ => rfl

theorem mild_findIssue (id : Uuid) : (findIssue id).Mild :=
  mild_read fun _ _ => rfl

theorem mild_countIssues (f : IssueFilter) : (countIssues f).Mild :=
  mild_read fun _ _ => rfl

theorem mild_pageIssues (f : IssueFilter) (ks : List SortKey) (p : Page) :
    (pageIssues f ks p).Mild := by
  refine mild_read fun ts s => ?_
  have sorted (is : List Issue) : (s.retarget ts).sorted ks is = s.sorted ks is := by
    rw [Store.sorted, keysLe_retarget, Store.sorted]
  rw [sorted]
  rfl

theorem mild_listComments (kind : CommentKind) (link : Uuid) : (listComments kind link).Mild :=
  mild_read fun _ _ => rfl

theorem mild_updateIssue (i : Issue) (now : Timestamp) : (updateIssue i now).Mild where
  blind ts s h := by
    rw [h.updateIssue_eq, (h.retarget ts).updateIssue_eq]
    change (match s.findIssueRow i.id with | none => _ | some old => _) = _
    cases s.findIssueRow i.id with
    | none => rfl
    | some old =>
      have rows : (s.retarget ts).issues = s.issues := rfl
      dsimp only
      rw [rows]
      split
      · rfl
      · rfl
  keeps s x h := by
    rw [h.untouched.updateIssue_eq]
    split
    · exact h
    next old found =>
    dsimp only
    split
    · exact h
    · obtain ⟨mem, own, -⟩ := findIssueRow_some found
      have places := Issue.places_replaced (j := i.written old now) h.ids mem rfl
      refine ⟨h.untouched.of_marks rfl, h.users, h.tokens, h.projects, h.members, ?_, ?_⟩
      · exact places ▸ h.places
      · exact Issue.ids_replaced (i.written old now) x.issues ▸ h.ids

theorem mild_removeComments (kind : CommentKind) (link : Uuid) :
    (removeComments kind link).Mild where
  blind ts s h := by
    rw [h.removeComments_eq, (h.retarget ts).removeComments_eq]
    rfl
  keeps s x h := by
    rw [h.untouched.removeComments_eq]
    exact h.same (by simp [marks, dropComments, forgetRows, h.untouched.edits]) rfl rfl rfl rfl rfl

theorem mild_removeIssue (id : Uuid) : (removeIssue id).Mild where
  blind ts s h := by
    rw [h.removeIssue_eq, (h.retarget ts).removeIssue_eq]
    rfl
  keeps s x h := by
    rw [h.untouched.removeIssue_eq]
    have marks : (x.dropIssue id).marks = x.marks := by
      simp [marks, dropIssue, forgetRows, h.untouched.edits]
    have fewer : (x.dropIssue id).issues.Sublist x.issues := List.filter_sublist
    exact ⟨h.untouched.of_marks marks, h.users, h.tokens, h.projects, h.members,
      (fewer.map _).trans h.places, h.ids.sublist (fewer.map _)⟩

theorem mild_addComment (c : Comment) : (addComment c).Mild where
  blind ts s h := by
    rw [h.addComment_eq, (h.retarget ts).addComment_eq]
    change (if (s.comments.any fun o => o.id == c.id) = true then _
      else if (s.findUser c.owner).isNone = true then _ else _) = _
    split
    · rfl
    · split
      · rfl
      · rfl
  keeps s x h := by
    rw [h.untouched.addComment_eq]
    split
    · exact h
    · split
      · exact h
      · exact h.same rfl rfl rfl rfl rfl rfl

end Store

namespace Service

section Handlers

open Store

/-- Nothing but mild statements may be made. -/
abbrev Mild {α : Type} (a : Action α) : Prop :=
  a.Every fun _ q => q.Mild

variable {c : Context}

theorem mild_ensureAccess {α : Type} {u : User} {project : Uuid} {f : Unit → Action α}
    (rest : Mild (f ())) : Mild (ensureAccess u project >>= f) := by
  refine .bind ?_ fun _ => rest
  unfold ensureAccess
  split
  · exact .pure ()
  · refine .ask (mild_hasAccess _ _) fun allowed => ?_
    cases allowed with
    | false => exact .refused _
    | true => exact .pure ()

theorem mild_guardIssue {α : Type} {f : Issue → Action α} (rest : ∀ i, Mild (f i)) :
    Mild (guardIssue c >>= f) := by
  refine .bind ?_ rest
  unfold guardIssue
  refine .require fun id => .ask mild_acquire fun _ => ?_
  refine .ask (mild_findIssue id) fun _ => .require fun i => ?_
  exact mild_ensureAccess (.pure i)

theorem mild_list : Mild (listIssues c) := by
  refine .ask mild_acquire fun _ => .require fun q => ?_
  extract_lets filter page rest
  have asked : Mild (rest ()) :=
    .ask (mild_countIssues _) fun _ => .ask (mild_pageIssues _ _ _) fun _ => .pure _
  split
  · exact mild_ensureAccess asked
  · exact asked

theorem mild_update : Mild (updateIssue c) := by
  refine mild_guardIssue fun i => .require fun p => ?_
  dsimp only
  split
  · exact .refused _
  · exact .ask (mild_updateIssue _ _) fun _ => .require fun _ => .pure _

theorem mild_delete : Mild (deleteIssue c) := by
  refine mild_guardIssue fun i => .begin (.ask (mild_removeComments _ _) fun _ => ?_)
  refine .ask (mild_removeIssue _) fun found => ?_
  cases found with
  | false => exact .refused _
  | true => exact .commit (.pure _)

theorem mild_comment : Mild (addComment c) := by
  refine mild_guardIssue fun i => .require fun d => ?_
  dsimp only
  split
  · exact .refused _
  · exact .ask (mild_addComment _) fun _ => .pure _

theorem mild_handler {op : Operation} (other : op ≠ .create) : Mild (op.handler c) := by
  cases op with
  | create => exact absurd rfl other
  | list => exact mild_list
  | get => exact mild_guardIssue fun i => .pure _
  | update => exact mild_update
  | delete => exact mild_delete
  | comments => exact mild_guardIssue fun i => .ask (mild_listComments _ _) fun _ => .pure _
  | addComment => exact mild_comment

end Handlers

/-- Every request but one that files an issue makes mild statements only. -/
theorem mild_answer (config : Config) (draw : Draw) {r : Request}
    (other : r.operation? ≠ some .create) : (answer config draw r).Every fun _ q => q.Mild := by
  unfold answer
  rw [Aim.find?_issues]
  cases ha : Aim.ofPath? r.uri.path with
  | none => trivial
  | some a =>
    have dispatched : Mild (dispatch config draw r a.dispatch) := by
      unfold dispatch
      refine .bind ?_ fun caller => ?_
      · unfold authenticate
        split
        · exact .pure none
        · exact ⟨Store.mild_userOfToken _, fun r => by cases r <;> trivial⟩
      cases caller with
      | none => exact .refused _
      | some u =>
        have route := a.handler?_dispatch r.method
        dsimp only
        rw [route]
        cases hop : a.operation? r.method with
        | none => exact .pure _
        | some op =>
          have named : r.operation? = some op := by
            rw [Request.operation?, ha, Option.bind_some, hop]
          exact .bind (mild_handler fun create => other (create ▸ named)) fun _ => .pure _
    refine .bind dispatched fun e => ?_
    cases e <;> trivial

/-- The worker writes nothing but summaries. -/
theorem follows_work {config : Config} {s : Store} {x : Service} (h : s.Follows x.store)
    (now : Timestamp) (faults : Nat → Faults) : s.Follows (x.work config now faults).store := by
  obtain ⟨ts, q, worked⟩ := work_retargets config h.untouched now faults
  rw [worked]
  exact h.same rfl rfl rfl rfl rfl rfl

end Service
end IssueTracker
