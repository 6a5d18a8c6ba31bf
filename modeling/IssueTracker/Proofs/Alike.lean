import IssueTracker.Proofs.Keys
import IssueTracker.Proofs.Selecting

/-! Two stores that a user cannot tell apart: who there is, what is owned and which targets
there are is the same in both, and so are the issues and comments of the projects that are
open to the user. All else may differ, and no statement that is made for the user is
answered differently. -/

namespace IssueTracker

/-- Lists with the same members find the same under a key that tells their members apart. -/
theorem find?_key_congr {α β : Type} [DecidableEq β] {f : α → β} {l m : List α}
    (hl : (l.map f).Nodup) (hm : (m.map f).Nodup) (same : ∀ a, a ∈ l ↔ a ∈ m) (k : β) :
    (l.find? fun a => f a == k) = m.find? fun a => f a == k := by
  ext a
  rw [Store.find?_key_iff hl, Store.find?_key_iff hm, same]

namespace Store

theorem Untouched.userOfToken {s : Store} (h : s.Untouched) (digest : String) :
    Query.pooled (Store.userOfToken digest) s =
      (.ok ((s.tokens.find? fun k => k.digest == digest).bind fun k => s.findUser k.user), s) := by
  rw [Query.pooled, h.closed]
  refine Prod.ext ?_ rfl
  change (do s.need [.tokens, .users]; _) = Except.ok _
  rw [h.need, ok_bind]
  cases (s.tokens.find? fun k => k.digest == digest).bind fun k => s.findUser k.user with
  | none => rfl
  | some v =>
    dsimp only
    rw [viewUser, h.view]
    rfl

/-- The comments on issues that a user may see, in the order of their numbers. -/
def commentsFor (s : Store) (u : User) : List Comment :=
  s.comments.filter fun c => ∃ i ∈ s.issuesFor u, i.id = c.link

/-- The stores agree on users, tokens, projects and members, on the id and the project of
every target, and on the issues and comments that are open to the user. -/
structure Alike (u : User) (s t : Store) : Prop where
  users : ∀ v, v ∈ s.users ↔ v ∈ t.users
  tokens : ∀ k, k ∈ s.tokens ↔ k ∈ t.tokens
  projects : ∀ p, p ∈ s.projects ↔ p ∈ t.projects
  members : ∀ m, m ∈ s.members ↔ m ∈ t.members
  targets : ∀ id project, (∃ x ∈ s.targets, x.id = id ∧ x.project = project) ↔
    ∃ x ∈ t.targets, x.id = id ∧ x.project = project
  issues : s.issuesFor u = t.issuesFor u
  comments : s.commentsFor u = t.commentsFor u

theorem Alike.symm {u : User} {s t : Store} (h : Alike u s t) : Alike u t s where
  users v := (h.users v).symm
  tokens k := (h.tokens k).symm
  projects p := (h.projects p).symm
  members m := (h.members m).symm
  targets id project := (h.targets id project).symm
  issues := h.issues.symm
  comments := h.comments.symm

/-- A store as histories leave it. -/
structure Settled (s : Store) : Prop where
  untouched : s.Untouched
  sound : s.Sound
  keyed : s.Keyed

/-- Two such stores that are alike to a user. -/
structure Twins (u : User) (s t : Store) : Prop where
  left : s.Settled
  right : t.Settled
  alike : Alike u s t

namespace Twins

variable {u : User} {s t : Store} (h : Twins u s t)
include h

theorem symm : Twins u t s :=
  ⟨h.right, h.left, h.alike.symm⟩

theorem grants (project user : Uuid) : s.grants project user = t.grants project user := by
  rw [Bool.eq_iff_iff]
  simp only [Store.grants, Bool.or_eq_true, List.any_eq_true, h.alike.projects, h.alike.members]

theorem entitles (v : User) (project : Uuid) : s.Entitles v project ↔ t.Entitles v project := by
  simp only [Entitles, h.alike.projects, h.alike.members]

theorem findUser (id : Uuid) : s.findUser id = t.findUser id :=
  find?_key_congr h.left.keyed.userIds h.right.keyed.userIds h.alike.users id

theorem caller? (r : Request) : s.caller? r = t.caller? r := by
  have token (digest : String) : (s.tokens.find? fun k => k.digest == digest) =
      t.tokens.find? fun k => k.digest == digest :=
    find?_key_congr h.left.keyed.digests h.right.keyed.digests h.alike.tokens digest
  unfold Store.caller?
  split
  · rfl
  · simp only [h.left.untouched.userOfToken, h.right.untouched.userOfToken, token, h.findUser]

theorem findIssueRow {id : Uuid} (open_ : ∀ i, i ∈ s.issues ∨ i ∈ t.issues → i.id = id →
    s.Entitles u i.project) : s.findIssueRow id = t.findIssueRow id := by
  ext i
  rw [h.left.sound.findIssueRow_iff h.left.untouched,
    h.right.sound.findIssueRow_iff h.right.untouched]
  constructor
  · rintro ⟨hi, rfl⟩
    have mem : i ∈ t.issuesFor u := h.alike.issues ▸ mem_issuesFor.2 ⟨hi, open_ i (.inl hi) rfl⟩
    exact ⟨(mem_issuesFor.1 mem).1, rfl⟩
  · rintro ⟨hi, rfl⟩
    have access := (h.entitles u i.project).1 (open_ i (.inr hi) rfl)
    have mem : i ∈ s.issuesFor u := h.alike.issues ▸ mem_issuesFor.2 ⟨hi, access⟩
    exact ⟨(mem_issuesFor.1 mem).1, rfl⟩

theorem findTargetRow {id : Uuid} {x : Target} (found : s.findTargetRow id = some x) :
    ∃ y, t.findTargetRow id = some y ∧ y.id = x.id ∧ y.project = x.project := by
  obtain ⟨hx, rfl⟩ := (find?_key_iff h.left.sound.targetIds).1 found
  obtain ⟨y, hy, same⟩ := (h.alike.targets x.id x.project).1 ⟨x, hx, rfl, rfl⟩
  exact ⟨y, (find?_key_iff h.right.sound.targetIds).2 ⟨hy, same.1⟩, same⟩

theorem findTargetRow_isNone (id : Uuid) :
    (s.findTargetRow id).isNone = (t.findTargetRow id).isNone := by
  cases hs : s.findTargetRow id with
  | some x =>
    obtain ⟨y, hy, -⟩ := h.findTargetRow hs
    rw [hy]
    rfl
  | none =>
    cases ht : t.findTargetRow id with
    | none => rfl
    | some y =>
      obtain ⟨x, hx, -⟩ := h.symm.findTargetRow ht
      rw [hs] at hx
      cases hx

theorem findProject_isNone (id : Uuid) : (s.findProject id).isNone = (t.findProject id).isNone := by
  rw [Bool.eq_iff_iff]
  simp [Store.findProject, h.alike.projects]

theorem columnOf (table : Table) (column : String) :
    s.columnOf table column = t.columnOf table column := by
  rw [Store.columnOf, Store.columnOf, nameOf, nameOf, h.left.untouched.renamed,
    h.right.untouched.renamed]

/-- Issues of one target are of one project, so one that is open to the user clashes only
with others that are. -/
theorem clash_forth {i o : Issue} (access : s.Entitles u i.project) {x : Target}
    (hx : x ∈ s.targets) (home : x.id = i.target ∧ x.project = i.project) (ho : o ∈ s.issues)
    (clash : i.clashes o = true) : o ∈ t.issues := by
  have target : i.target = o.target := by
    simp only [Issue.clashes, Bool.and_eq_true, beq_iff_eq] at clash
    exact clash.1.2
  obtain ⟨y, hy, own⟩ := h.left.sound.homed o ho
  obtain rfl : y = x := List.inj_on_of_nodup_map h.left.sound.targetIds hy hx
    (own.1.trans (target.symm.trans home.1.symm))
  have open_ : s.Entitles u o.project := by
    rwa [← own.2, home.2]
  have mem : o ∈ t.issuesFor u := h.alike.issues ▸ mem_issuesFor.2 ⟨ho, open_⟩
  exact (mem_issuesFor.1 mem).1

theorem any_clash {i : Issue} (access : s.Entitles u i.project) {x : Target} (hx : x ∈ s.targets)
    (home : x.id = i.target ∧ x.project = i.project) (p : Issue → Bool) :
    (s.issues.any fun o => p o && i.clashes o) = t.issues.any fun o => p o && i.clashes o := by
  obtain ⟨y, hy, home'⟩ := (h.alike.targets _ _).1 ⟨x, hx, home⟩
  rw [Bool.eq_iff_iff]
  simp only [List.any_eq_true, Bool.and_eq_true]
  constructor
  · rintro ⟨o, ho, hp, clash⟩
    exact ⟨o, h.clash_forth access hx home ho clash, hp, clash⟩
  · rintro ⟨o, ho, hp, clash⟩
    exact ⟨o, h.symm.clash_forth ((h.entitles _ _).1 access) hy home' ho clash, hp, clash⟩

/-- The comments on an issue that is open to the user. -/
theorem commentsOn {i : Issue} (hi : i ∈ s.issuesFor u) :
    (s.comments.filter fun c => c.link == i.id) = t.comments.filter fun c => c.link == i.id := by
  have shown {s : Store} (hi : i ∈ s.issuesFor u) : (s.comments.filter fun c => c.link == i.id) =
      (s.commentsFor u).filter fun c => c.link == i.id := by
    rw [commentsFor, List.filter_filter]
    refine List.filter_congr fun c _ => ?_
    by_cases link : c.link = i.id
    · simpa [link] using ⟨i, hi, rfl⟩
    · simp [link]
  rw [shown hi, shown (h.alike.issues ▸ hi), h.alike.comments]

section Answers

theorem addIssue {i : Issue} (access : s.Entitles u i.project) {x : Target} (hx : x ∈ s.targets)
    (home : x.id = i.target ∧ x.project = i.project) (fresh : ∀ o ∈ s.issues, o.id ≠ i.id)
    (fresh' : ∀ o ∈ t.issues, o.id ≠ i.id) :
    (Store.addIssue i s).1 = (Store.addIssue i t).1 := by
  have clash := h.any_clash access hx home fun _ => true
  simp only [Bool.true_and] at clash
  have free {s : Store} (h : s.Untouched) (fresh : ∀ o ∈ s.issues, o.id ≠ i.id) :
      s.findIssueRow i.id = none := by
    rw [h.findIssueRow]
    simpa using fresh
  rw [Store.addIssue, Query.write_answer, Query.write_answer]
  simp only [h.left.untouched.need, h.right.untouched.need, ok_bind, clash, uniqIdColumns,
    h.columnOf, free h.left.untouched fresh, free h.right.untouched fresh', h.findProject_isNone,
    h.findTargetRow_isNone]
  split_ifs <;> rfl

theorem updateIssue {i : Issue} (hi : i ∈ s.issuesFor u) (p : Patch) (now : Timestamp) :
    (Store.updateIssue (p.apply i) now s).1 = (Store.updateIssue (p.apply i) now t).1 := by
  let j := (p.apply i).written i now
  have answer {s : Store} (settled : s.Settled) (hi : i ∈ s.issuesFor u) :
      (Store.updateIssue (p.apply i) now s).1 =
        if s.issues.any fun o => o.id != j.id && j.clashes o then
          .error (.notUnique s.uniqIdColumns)
        else .ok (some j) := by
    have found : s.findIssueRow (p.apply i).id = some i :=
      settled.sound.findIssueRow settled.untouched (mem_issuesFor.1 hi).1
    have after : ((s.putIssue j).forgetCells .issues j.id Issue.mutableColumns).Untouched :=
      settled.untouched.of_marks (by simp [marks, forgetCells, putIssue, settled.untouched.edits])
    unfold Store.updateIssue
    rw [settled.untouched.need, found]
    change (if _ then _ else _ : Except DbError (Option Issue) × Store).1 = _
    split
    · rfl
    · exact congrArg (Except.map some) (after.view _ _ _ _)
  obtain ⟨mem, access⟩ := mem_issuesFor.1 hi
  obtain ⟨x, hx, home⟩ := h.left.sound.homed i mem
  rw [answer h.left hi, answer h.right (h.alike.issues ▸ hi), h.any_clash (i := j) access hx home]
  simp only [uniqIdColumns, h.columnOf]

theorem removeComments {i : Issue} (hi : i ∈ s.issuesFor u) :
    (Store.removeComments .issue i.id s).1 = (Store.removeComments .issue i.id t).1 := by
  have linked {s : Store} (h : s.Untouched) : s.linked .issue i.id = fun c => c.link == i.id :=
    funext (h.linked _ _)
  rw [Store.removeComments, Query.write_answer, Query.write_answer, h.left.untouched.need,
    h.right.untouched.need, linked h.left.untouched, linked h.right.untouched, h.commentsOn hi]
  rfl

theorem listComments {i : Issue} (hi : i ∈ s.issuesFor u) :
    (Store.listComments .issue i.id s).1 = (Store.listComments .issue i.id t).1 := by
  have answer {s : Store} (h : s.Untouched) : (Store.listComments .issue i.id s).1 =
      .ok ((s.comments.filter fun c => c.link == i.id).mergeSort fun a b =>
        decide (a.created.stored ≤ b.created.stored)) := by
    change (do s.need [.comments]; _) = Except.ok _
    have linked : s.linked .issue i.id = fun c => c.link == i.id := funext (h.linked _ _)
    have view : s.viewComment = fun c => pure c := funext fun c => h.view _ _ _ _
    rw [h.need, ok_bind, view, List.mapM_pure, List.map_id', commentsOf, linked]
    simp only [createdText, h.edited, Option.getD_none]
    rfl
  rw [answer h.left.untouched, answer h.right.untouched, h.commentsOn hi]

theorem addComment {c : Comment} (fresh : ∀ o ∈ s.comments, o.id ≠ c.id)
    (fresh' : ∀ o ∈ t.comments, o.id ≠ c.id) :
    (Store.addComment c s).1 = (Store.addComment c t).1 := by
  have free {s : Store} (fresh : ∀ o ∈ s.comments, o.id ≠ c.id) :
      (s.comments.any fun o => o.id == c.id) = false := by
    simpa using fresh
  rw [Store.addComment, Query.write_answer, Query.write_answer]
  simp only [h.left.untouched.need, h.right.untouched.need, ok_bind, free fresh, free fresh',
    h.columnOf, h.findUser]
  split_ifs <;> rfl

end Answers

end Twins

end Store
end IssueTracker
