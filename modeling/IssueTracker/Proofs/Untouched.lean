import IssueTracker.Proofs.Writes
import IssueTracker.Store.Summaries
import Mathlib.Tactic.SplitIfs

/-! Stores that only the service has written to: no cell was written by hand, no row
numbered, no table renamed, and the store is open. There every table is in its place,
every row reads as itself, and each statement that writes has a plain effect, given
here as the store after it. -/

namespace IssueTracker

theorem ok_bind {α β : Type} (a : α) (f : α → Except DbError β) : (Except.ok a >>= f) = f a :=
  rfl

theorem pure_eq_ok {α : Type} {a b : α} {s s' : Store} :
    (pure (a, s) : Except DbError (α × Store)) = .ok (b, s') ↔ a = b ∧ s = s' := by
  simp only [pure, Except.pure, Except.ok.injEq, Prod.mk.injEq]

namespace Issue

/-- The list with the issues of this id replaced. -/
def replaced (j : Issue) (is : List Issue) : List Issue :=
  is.map fun o => if o.id == j.id then j else o

theorem replaced_mem {i j : Issue} {is : List Issue} (hi : i ∈ is) (same : i.id = j.id) :
    j ∈ j.replaced is :=
  List.mem_map.2 ⟨i, hi, by simp [same]⟩

theorem mem_replaced_of_ne {j o : Issue} {is : List Issue} (ho : o ∈ is) (other : o.id ≠ j.id) :
    o ∈ j.replaced is :=
  List.mem_map.2 ⟨o, ho, by simp [other]⟩

theorem mem_replaced {j o : Issue} {is : List Issue} (h : o ∈ j.replaced is) :
    o = j ∨ o ∈ is ∧ o.id ≠ j.id := by
  obtain ⟨i, hi, rfl⟩ := List.mem_map.1 h
  by_cases same : i.id = j.id
  · exact .inl (by simp [same])
  · exact .inr (by simpa [same] using hi)

theorem ids_replaced (j : Issue) (is : List Issue) : (j.replaced is).map id = is.map id := by
  rw [replaced, List.map_map]
  refine List.map_congr_left fun i _ => ?_
  by_cases same : i.id = j.id
  · simp [same]
  · simp [same]

end Issue

namespace Store

variable {s : Store}

theorem enrol_of_full (s : Store) (full : s.full = []) (t : Table) (id : Uuid) :
    s.enrol t id = { s with numbers := s.numbers ++ [⟨t, id, s.nextNumber t⟩] } := by
  rw [enrol, full]
  rfl

/-- All that can only be changed by hand. -/
def marks (s : Store) : List Edit × List Table × List (Table × String) × Bool :=
  (s.edits, s.full, s.renamed, s.closed)

/-- The store with other targets. -/
def retarget (ts : List Target) (s : Store) : Store :=
  { s with targets := ts }

/-- Nobody has worked on the store by hand. -/
structure Untouched (s : Store) : Prop where
  edits : s.edits = []
  full : s.full = []
  renamed : s.renamed = []
  closed : s.closed = false

namespace Untouched

variable {i j : Issue} {c d : Comment} {s' : Store} (h : s.Untouched)
include h

theorem of_marks (same : s'.marks = s.marks) : s'.Untouched := by
  simp only [marks, Prod.mk.injEq] at same
  obtain ⟨edits, full, renamed, closed⟩ := same
  exact ⟨edits.trans h.edits, full.trans h.full, renamed.trans h.renamed, closed.trans h.closed⟩

theorem inPlace (t : Table) : s.inPlace t = true := by
  rw [Store.inPlace, nameOf, h.renamed]
  cases t <;> decide

theorem need (ts : List Table) : s.need ts = .ok () := by
  rw [Store.need, List.find?_eq_none.2 (by simp [h.inPlace])]

theorem edited (t : Table) (row : Uuid) (column : String) : s.edited t row column = none := by
  rw [Store.edited, h.edits]
  rfl

theorem view {ρ : Type} (t : Table) (id : Uuid) (set : ρ → String → String → Option ρ) (row : ρ) :
    s.view t id set row = .ok row := by
  rw [Store.view, editsOf, h.edits]
  rfl

theorem findIssueRow (id : Uuid) : s.findIssueRow id = s.issues.find? fun i => i.id == id := by
  simp only [Store.findIssueRow, h.edited, Option.isNone_none, Bool.and_true]

theorem linked (kind : CommentKind) (link : Uuid) (c : Comment) :
    s.linked kind link c = (c.link == link) := by
  rw [Store.linked, h.edited, h.edited]
  cases c.kind
  cases kind
  rfl

/-- An issue that was added is the last one; its unique id and its id were not taken. -/
theorem addIssue (added : Store.addIssue i s = (.ok j, s')) :
    j = i ∧ (∀ o ∈ s.issues, i.clashes o = false) ∧ (∀ o ∈ s.issues, o.id ≠ i.id)
      ∧ ∃ ns, s' = { s with issues := s.issues ++ [i], numbers := ns } := by
  have added := Query.write_ok.1 added
  simp only [h.need, ok_bind, throw_bind, h.findIssueRow] at added
  split_ifs at added with clash taken
  obtain ⟨rfl, rfl⟩ := pure_eq_ok.1 added
  exact ⟨rfl, by simpa using clash, by simpa using taken, _, enrol_of_full _ (by exact h.full) _ _⟩

/-- An issue that was updated has taken the place of the row with its id. -/
theorem updateIssue {now : Timestamp} (updated : Store.updateIssue i now s = (.ok (some j), s')) :
    ∃ old, s.findIssueRow i.id = some old ∧ j = i.written old now
      ∧ (∀ o ∈ s.issues, o.id ≠ j.id → j.clashes o = false)
      ∧ s' = { s with issues := j.replaced s.issues } := by
  unfold Store.updateIssue at updated
  simp only [h.need] at updated
  split at updated
  · cases updated
  next old hold =>
  split_ifs at updated with clash
  · cases updated
  have forget (id : Uuid) (columns : List String) :
      (s.putIssue (i.written old now)).forgetCells .issues id columns =
        s.putIssue (i.written old now) := by
    simp only [forgetCells, putIssue, h.edits, List.filter_nil]
  have read : (s.putIssue (i.written old now)).viewIssue (i.written old now) =
      .ok (i.written old now) :=
    (h.of_marks rfl).view _ _ _ _
  rw [forget, read] at updated
  simp only [Except.map, Prod.mk.injEq, Except.ok.injEq, Option.some.injEq] at updated
  obtain ⟨rfl, rfl⟩ := updated
  exact ⟨old, hold, rfl, by simpa using clash, rfl⟩

theorem removeIssue {id : Uuid} {b : Bool} (removed : Store.removeIssue id s = (.ok b, s')) :
    ∃ ns, s' = { s with issues := s.issues.filter fun i => i.id != id, numbers := ns } := by
  have removed := Query.write_ok.1 removed
  rw [h.need, ok_bind] at removed
  obtain ⟨-, rfl⟩ := pure_eq_ok.1 removed
  simp only [dropIssue, forgetRows, h.edits, List.filter_nil]
  exact ⟨_, rfl⟩

theorem removeComments {kind : CommentKind} {link : Uuid} {n : Nat}
    (removed : Store.removeComments kind link s = (.ok n, s')) :
    ∃ ns, s' = { s with comments := s.comments.filter fun c => c.link != link, numbers := ns } := by
  have removed := Query.write_ok.1 removed
  rw [h.need, ok_bind] at removed
  obtain ⟨-, rfl⟩ := pure_eq_ok.1 removed
  simp only [dropComments, forgetRows, h.edits, h.linked, List.filter_nil]
  exact ⟨_, rfl⟩

theorem addComment (added : Store.addComment c s = (.ok d, s')) :
    d = c ∧ (∀ o ∈ s.comments, o.id ≠ c.id) ∧ (∃ u ∈ s.users, u.id = c.owner)
      ∧ ∃ ns, s' = { s with comments := s.comments ++ [c], numbers := ns } := by
  have added := Query.write_ok.1 added
  simp only [h.need, ok_bind, throw_bind] at added
  split_ifs at added with taken owner
  obtain ⟨rfl, rfl⟩ := pure_eq_ok.1 added
  obtain ⟨u, hu⟩ := Option.ne_none_iff_exists'.1 (by simpa using owner)
  have hid : u.id = c.owner := by simpa using List.find?_some hu
  exact ⟨rfl, by simpa using taken, ⟨u, List.mem_of_find?_eq_some hu, hid⟩, _,
    enrol_of_full _ (by exact h.full) _ _⟩

theorem findTarget_eq (id : Uuid) : Store.findTarget id s = (.ok (s.findTargetRow id), s) := by
  refine Prod.ext ?_ rfl
  change (do s.need [.targets]; _) = Except.ok _
  rw [h.need, ok_bind]
  cases s.findTargetRow id with
  | none => rfl
  | some row =>
    dsimp only
    rw [viewTarget, h.view]
    rfl

theorem findTarget {id : Uuid} {t : Target} (found : (Store.findTarget id s).1 = .ok (some t)) :
    t ∈ s.targets ∧ t.id = id := by
  rw [h.findTarget_eq] at found
  have row := Except.ok.inj found
  exact ⟨List.mem_of_find?_eq_some row, by simpa using List.find?_some row⟩

theorem findIssue (id : Uuid) : Store.findIssue id s = (.ok (s.findIssueRow id), s) := by
  refine Prod.ext ?_ rfl
  change (do s.need [.issues]; _) = Except.ok _
  rw [h.need, ok_bind]
  cases s.findIssueRow id with
  | none => rfl
  | some row =>
    dsimp only
    rw [viewIssue, h.view]
    rfl

theorem found {id : Uuid} (found : (Store.findIssue id s).1 = .ok (some i)) :
    s.findIssueRow id = some i := by
  rw [h.findIssue] at found
  exact Except.ok.inj found

theorem hasAccess (project user : Uuid) :
    Store.hasAccess project user s = (.ok (s.grants project user), s) := by
  refine Prod.ext ?_ rfl
  change (do s.need [.members, .projects]; _) = Except.ok _
  rw [h.need, ok_bind]
  rfl

theorem acquire : Query.acquire s = (.ok (), s) := by
  simp [Query.acquire, Query.read, h.closed]

theorem putSummary (t : Uuid) (v : Summary) (now : Timestamp) :
    s.putSummary t v now = { s with
      targets := s.targets.map fun o =>
        if o.id == t then { o with summary := v, updated := now } else o } := by
  simp only [Store.putSummary, forgetCells, h.edits, List.filter_nil]

theorem targetIds_putSummary (t : Uuid) (v : Summary) (now : Timestamp) :
    (s.putSummary t v now).targets.map Target.id = s.targets.map Target.id := by
  rw [h.putSummary, List.map_map]
  refine List.map_congr_left fun o _ => ?_
  dsimp only [Function.comp]
  split <;> rfl

end Untouched

/-- What entering a user, a token, a project, a member or a target does to the rest. -/
structure Entered (s s' : Store) : Prop where
  marks : s'.marks = s.marks
  issues : s'.issues = s.issues
  comments : s'.comments = s.comments
  users : s.users <+: s'.users
  targets : s'.targets = s.targets ∨ ∃ t : Target, t.summary = {} ∧ (∀ o ∈ s.targets, o.id ≠ t.id)
    ∧ s'.targets = s.targets ++ [t]

theorem Entered.refl (s : Store) : Entered s s :=
  ⟨rfl, rfl, rfl, List.prefix_refl _, .inl rfl⟩

theorem Entered.rows {us : List User} {ts : List ApiToken} {ps : List Project} {ms : List Member}
    {ns : List RowNumber} (more : s.users <+: us) :
    Entered s { s with users := us, tokens := ts, projects := ps, members := ms, numbers := ns } :=
  ⟨rfl, rfl, rfl, more, .inl rfl⟩

/-- A statement that fails leaves the store as it is. -/
theorem pooled_write {α : Type} {f : Store → Except DbError (α × Store)} {s' : Store}
    (hs : (Query.pooled (Query.write f) s).2 = s') : s' = s ∨ ∃ a, f s = .ok (a, s') := by
  unfold Query.pooled Query.write at hs
  split at hs
  · exact .inl hs.symm
  · split at hs
    · next hf =>
      obtain rfl := hs
      exact .inr ⟨_, hf⟩
    · exact .inl hs.symm

section Entering

variable {s' : Store} (h : s.Untouched)
include h

/-! Entering a row either changes nothing or adds the row to its table, where its key is new. -/

theorem added_user (u : User) (hs : (Query.pooled (addUser u) s).2 = s') : s' = s
    ∨ (∀ v ∈ s.users, v.id ≠ u.id) ∧ ∃ ns, s' =
      { s with users := s.users ++ [u], numbers := ns } := by
  refine (pooled_write hs).imp_right fun ⟨a, ha⟩ => ?_
  simp only [h.need, ok_bind, throw_bind] at ha
  split_ifs at ha with _ taken
  obtain ⟨-, rfl⟩ := pure_eq_ok.1 ha
  exact ⟨by simpa using taken, _, enrol_of_full _ (by exact h.full) _ _⟩

theorem added_token (t : ApiToken) (hs : (Query.pooled (addToken t) s).2 = s') : s' = s
    ∨ (∀ v ∈ s.tokens, v.digest ≠ t.digest) ∧ s' = { s with tokens := s.tokens ++ [t] } := by
  refine (pooled_write hs).imp_right fun ⟨a, ha⟩ => ?_
  simp only [h.need, ok_bind, throw_bind] at ha
  split_ifs at ha with taken _
  exact ⟨by simpa using taken, (pure_eq_ok.1 ha).2.symm⟩

theorem added_project (p : Project) (hs : (Query.pooled (addProject p) s).2 = s') : s' = s
    ∨ ∃ ns, s' = { s with projects := s.projects ++ [p], numbers := ns } := by
  refine (pooled_write hs).imp_right fun ⟨a, ha⟩ => ?_
  simp only [h.need, ok_bind, throw_bind] at ha
  split_ifs at ha
  obtain ⟨-, rfl⟩ := pure_eq_ok.1 ha
  exact ⟨_, enrol_of_full _ (by exact h.full) _ _⟩

theorem added_member (m : Member) (hs : (Query.pooled (addMember m) s).2 = s') : s' = s
    ∨ s' = { s with members := s.members ++ [m] } := by
  refine (pooled_write hs).elim .inl fun ⟨a, ha⟩ => ?_
  simp only [h.need, ok_bind, throw_bind] at ha
  split_ifs at ha
  · exact .inl (pure_eq_ok.1 ha).2.symm
  · exact .inr (pure_eq_ok.1 ha).2.symm

theorem added_target (t : Target) (hs : (Query.pooled (addTarget t) s).2 = s') : s' = s
    ∨ (∀ o ∈ s.targets, o.id ≠ t.id) ∧ ∃ ns, s' =
      { s with targets := s.targets ++ [t], numbers := ns } := by
  refine (pooled_write hs).imp_right fun ⟨a, ha⟩ => ?_
  simp only [h.need, ok_bind, throw_bind] at ha
  split_ifs at ha with taken
  obtain ⟨-, rfl⟩ := pure_eq_ok.1 ha
  exact ⟨by simpa [findTargetRow] using taken, _, enrol_of_full _ (by exact h.full) _ _⟩

theorem entered_addUser (u : User) : Entered s (Query.pooled (addUser u) s).2 := by
  rcases added_user h u rfl with same | ⟨-, ns, more⟩
  · rw [same]
    exact .refl s
  · rw [more]
    exact .rows (List.prefix_append _ _)

theorem entered_addToken (t : ApiToken) : Entered s (Query.pooled (addToken t) s).2 := by
  rcases added_token h t rfl with same | ⟨-, more⟩
  · rw [same]
    exact .refl s
  · rw [more]
    exact .rows (List.prefix_refl _)

theorem entered_addProject (p : Project) : Entered s (Query.pooled (addProject p) s).2 := by
  rcases added_project h p rfl with same | ⟨ns, more⟩
  · rw [same]
    exact .refl s
  · rw [more]
    exact .rows (List.prefix_refl _)

theorem entered_addMember (m : Member) : Entered s (Query.pooled (addMember m) s).2 := by
  rcases added_member h m rfl with same | more
  · rw [same]
    exact .refl s
  · rw [more]
    exact .rows (List.prefix_refl _)

theorem entered_addTarget (id project : Uuid) (name : String) (now : Timestamp) :
    Entered s (Query.pooled (addTarget (Target.start id project name now)) s).2 := by
  rcases added_target h _ rfl with same | ⟨fresh, ns, more⟩
  · rw [same]
    exact .refl s
  · rw [more]
    exact ⟨rfl, rfl, rfl, List.prefix_refl _, .inr ⟨_, rfl, fresh, rfl⟩⟩

end Entering

end Store
end IssueTracker
