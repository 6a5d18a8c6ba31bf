import IssueTracker.Proofs.Steps
import Mathlib.Data.List.Nodup

/-! What holds of the store after every history: each issue is of the project of its
target, unique ids are unique within a target and never empty, and comments are linked to
issues and owned by users. The schema says none of this of projects and links; it holds
because every turn that a request can take keeps it. -/

namespace IssueTracker

namespace Issue

theorem clashes_eq_false {i o : Issue} :
    i.clashes o = false ↔ (i.target = o.target → i.uniqId = o.uniqId → i.uniqId = none) := by
  unfold clashes
  cases i.uniqId with
  | none => simp
  | some u => simp

end Issue

theorem Patch.uniqId_apply {p : Patch} {i : Issue} (h : i.uniqId ≠ some "") :
    (p.apply i).uniqId ≠ some "" := by
  unfold Patch.apply
  cases p.uniqId with
  | none => exact h
  | some u =>
    dsimp only [Option.map_some, Option.getD_some]
    unfold Patch.storedUniqId
    split
    · simp
    · next nonempty => simpa using nonempty

namespace Store

/-- What the rows of different tables have to do with each other. -/
structure Sound (s : Store) : Prop where
  homed : ∀ i ∈ s.issues, ∃ t ∈ s.targets, t.id = i.target ∧ t.project = i.project
  apart : ∀ i ∈ s.issues, ∀ j ∈ s.issues, i.target = j.target → i.uniqId = j.uniqId →
    i.uniqId = none ∨ i.id = j.id
  named : ∀ i ∈ s.issues, i.uniqId ≠ some ""
  linked : ∀ c ∈ s.comments, ∃ i ∈ s.issues, i.id = c.link
  owned : ∀ c ∈ s.comments, ∃ u ∈ s.users, u.id = c.owner
  targetIds : (s.targets.map Target.id).Nodup
  issueIds : (s.issues.map Issue.id).Nodup
  commentIds : (s.comments.map Comment.id).Nodup

theorem nodup_concat {α β : Type} {f : α → β} {l : List α} {a : α} (h : (l.map f).Nodup)
    (fresh : ∀ b ∈ l, f b ≠ f a) : ((l ++ [a]).map f).Nodup := by
  rw [List.map_append, List.nodup_append]
  refine ⟨h, by simp, fun x hx y hy => ?_⟩
  obtain ⟨b, hb, rfl⟩ := List.mem_map.1 hx
  obtain rfl : y = f a := by simpa using hy
  exact fresh b hb

/-- A key that tells the members of a list apart finds the member that has it. -/
theorem find?_key_iff {α β : Type} [DecidableEq β] {f : α → β} {l : List α} {a : α} {k : β}
    (nodup : (l.map f).Nodup) : (l.find? fun b => f b == k) = some a ↔ a ∈ l ∧ f a = k := by
  constructor
  · intro found
    exact ⟨List.mem_of_find?_eq_some found, by simpa using List.find?_some found⟩
  · rintro ⟨mem, rfl⟩
    cases found : l.find? fun b => f b == f a with
    | none => simpa using List.find?_eq_none.1 found a mem
    | some b =>
      have same : f b = f a := by simpa using List.find?_some found
      rw [List.inj_on_of_nodup_map nodup (List.mem_of_find?_eq_some found) mem same]

namespace Sound

variable {s s' : Store} {i j : Issue} {ns : List RowNumber} (h : s.Sound)
include h

theorem eq_of_id (hi : i ∈ s.issues) (hj : j ∈ s.issues) (same : i.id = j.id) : i = j :=
  List.inj_on_of_nodup_map h.issueIds hi hj same

/-- An issue is found by its id. -/
theorem findIssueRow_iff (untouched : s.Untouched) {id : Uuid} :
    s.findIssueRow id = some i ↔ i ∈ s.issues ∧ i.id = id := by
  rw [untouched.findIssueRow]
  exact find?_key_iff h.issueIds

theorem findIssueRow (untouched : s.Untouched) (hi : i ∈ s.issues) :
    s.findIssueRow i.id = some i :=
  (h.findIssueRow_iff untouched).2 ⟨hi, rfl⟩

theorem enter (e : Entered s s') : s'.Sound := by
  obtain ⟨targets, ids⟩ : s.targets ⊆ s'.targets ∧ (s'.targets.map Target.id).Nodup := by
    rcases e.targets with same | ⟨t, -, fresh, more⟩
    · rw [same]
      exact ⟨List.Subset.refl _, h.targetIds⟩
    · rw [more]
      exact ⟨List.subset_append_left _ _, nodup_concat h.targetIds fresh⟩
  refine ⟨?_, ?_, ?_, ?_, ?_, ids, ?_, ?_⟩
  · rw [e.issues]
    intro i hi
    obtain ⟨t, ht, home⟩ := h.homed i hi
    exact ⟨t, targets ht, home⟩
  · rw [e.issues]
    exact h.apart
  · rw [e.issues]
    exact h.named
  · rw [e.issues, e.comments]
    exact h.linked
  · rw [e.comments]
    intro c hc
    obtain ⟨u, hu, own⟩ := h.owned c hc
    exact ⟨u, e.users.subset hu, own⟩
  · rw [e.issues]
    exact h.issueIds
  · rw [e.comments]
    exact h.commentIds

theorem addIssue {t : Target} (target : t ∈ s.targets)
    (home : t.id = i.target ∧ t.project = i.project) (named : i.uniqId ≠ some "")
    (apart : ∀ o ∈ s.issues, i.clashes o = false) (fresh : ∀ o ∈ s.issues, o.id ≠ i.id) :
    Sound { s with issues := s.issues ++ [i], numbers := ns } where
  homed := by
    simp only [List.forall_mem_append, List.forall_mem_singleton]
    exact ⟨h.homed, t, target, home⟩
  apart := by
    simp only [List.forall_mem_append, List.forall_mem_singleton]
    refine ⟨fun o ho => ⟨h.apart o ho, fun ht hu => ?_⟩, fun o ho ht hu => ?_, fun _ _ => ?_⟩
    · exact .inl (hu.trans (Issue.clashes_eq_false.1 (apart o ho) ht.symm hu.symm))
    · exact .inl (Issue.clashes_eq_false.1 (apart o ho) ht hu)
    · exact .inr trivial
  named := by
    simp only [List.forall_mem_append, List.forall_mem_singleton]
    exact ⟨h.named, named⟩
  linked c hc := by
    obtain ⟨o, ho, hl⟩ := h.linked c hc
    exact ⟨o, List.mem_append_left _ ho, hl⟩
  owned := h.owned
  targetIds := h.targetIds
  issueIds := nodup_concat h.issueIds fresh
  commentIds := h.commentIds

theorem replaceIssue (old : i ∈ s.issues)
    (same : j.id = i.id ∧ j.target = i.target ∧ j.project = i.project)
    (named : j.uniqId ≠ some "") (apart : ∀ o ∈ s.issues, o.id ≠ j.id → j.clashes o = false) :
    Sound { s with issues := j.replaced s.issues } where
  homed o ho := by
    rcases Issue.mem_replaced ho with rfl | ⟨ho, -⟩
    · rw [same.2.1, same.2.2]
      exact h.homed i old
    · exact h.homed o ho
  apart o ho k hk ht hu := by
    rcases Issue.mem_replaced ho with rfl | ⟨mo, hne⟩
    · rcases Issue.mem_replaced hk with rfl | ⟨mk, hne⟩
      · exact .inr rfl
      · exact .inl (Issue.clashes_eq_false.1 (apart k mk hne) ht hu)
    · rcases Issue.mem_replaced hk with rfl | ⟨mk, -⟩
      · have none_ := Issue.clashes_eq_false.1 (apart o mo hne) ht.symm hu.symm
        exact .inl (hu.trans none_)
      · exact h.apart o mo k mk ht hu
  named o ho := by
    rcases Issue.mem_replaced ho with rfl | ⟨ho, -⟩
    · exact named
    · exact h.named o ho
  linked c hc := by
    -- the ids of the issues are what they were
    obtain ⟨o, ho, hl⟩ := h.linked c hc
    have mem : c.link ∈ (j.replaced s.issues).map Issue.id := by
      rw [Issue.ids_replaced, ← hl]
      exact List.mem_map_of_mem ho
    exact List.mem_map.1 mem
  owned := h.owned
  targetIds := h.targetIds
  issueIds := by
    dsimp only
    rw [Issue.ids_replaced]
    exact h.issueIds
  commentIds := h.commentIds

theorem removeIssue (id : Uuid) :
    Sound { s with
      issues := s.issues.filter fun o => o.id != id
      comments := s.comments.filter fun c => c.link != id
      numbers := ns } where
  homed i hi := h.homed i (List.mem_filter.1 hi).1
  apart i hi j hj := h.apart i (List.mem_filter.1 hi).1 j (List.mem_filter.1 hj).1
  named i hi := h.named i (List.mem_filter.1 hi).1
  linked c hc := by
    obtain ⟨hc, hne⟩ := List.mem_filter.1 hc
    obtain ⟨i, hi, hl⟩ := h.linked c hc
    exact ⟨i, List.mem_filter.2 ⟨hi, by rwa [hl]⟩, hl⟩
  owned c hc := h.owned c (List.mem_filter.1 hc).1
  targetIds := h.targetIds
  issueIds := h.issueIds.sublist (List.filter_sublist.map _)
  commentIds := h.commentIds.sublist (List.filter_sublist.map _)

theorem addComment {c : Comment} (old : i ∈ s.issues) (link : c.link = i.id)
    (fresh : ∀ o ∈ s.comments, o.id ≠ c.id) (owner : ∃ u ∈ s.users, u.id = c.owner) :
    Sound { s with comments := s.comments ++ [c], numbers := ns } where
  homed := h.homed
  apart := h.apart
  named := h.named
  linked := by
    simp only [List.forall_mem_append, List.forall_mem_singleton]
    exact ⟨h.linked, i, old, link.symm⟩
  owned := by
    simp only [List.forall_mem_append, List.forall_mem_singleton]
    exact ⟨h.owned, owner⟩
  targetIds := h.targetIds
  issueIds := h.issueIds
  commentIds := nodup_concat h.commentIds fresh

/-- A summary is no part of what is asked of a target. -/
theorem putSummary (untouched : s.Untouched) (t : Uuid) (v : Summary) (now : Timestamp) :
    (s.putSummary t v now).Sound := by
  have ids := untouched.targetIds_putSummary t v now
  rw [untouched.putSummary] at ids ⊢
  refine ⟨fun i hi => ?_, h.apart, h.named, h.linked, h.owned, ?_, h.issueIds, h.commentIds⟩
  · obtain ⟨o, ho, home⟩ := h.homed i hi
    refine ⟨_, List.mem_map_of_mem ho, ?_⟩
    split <;> exact home
  · rw [ids]
    exact h.targetIds

end Sound

end Store

namespace Service

variable {config : Config} {s s' : Service} {e : Event}

theorem Turn.sound {draw : Draw} {r : Request} {s s' : Store} {o : Outcome} (h : s.Sound)
    (turn : Turn draw r s o s') : s'.Sound := by
  cases turn with
  | nothing => exact h
  | create _ target made apart fresh =>
    subst made
    exact h.addIssue target ⟨rfl, rfl⟩ (Patch.uniqId_apply (by simp [Issue.blank])) apart fresh
  | update _ _ old made apart =>
    subst made
    exact h.replaceIssue old ⟨rfl, rfl, rfl⟩ (Patch.uniqId_apply (h.named _ old)) apart
  | delete => exact h.removeIssue _
  | comment _ old link fresh owner => exact h.addComment old link fresh owner

theorem Step.sound (untouched : s.store.Untouched) (h : s.store.Sound) (step : Step config s e s') :
    s'.store.Sound := by
  cases step with
  | enter entered => exact h.enter entered
  | request turn => exact turn.sound h
  | idle => exact h
  | work _ leaves =>
    rcases leaves with ⟨rfl, -⟩ | ⟨v, -, rfl⟩
    · exact h
    · exact h.putSummary untouched _ _ _

theorem sound_empty : Store.Sound {} where
  homed := by simp
  apart := by simp
  named := by simp
  linked := by simp
  owned := by simp
  targetIds := by simp
  issueIds := by simp
  commentIds := by simp

/-- What a history leaves behind: rows that only the service wrote, and that agree. -/
structure Intact (s : Service) : Prop where
  untouched : s.store.Untouched
  sound : s.store.Sound

theorem run_intact (config : Config) (es : List Event) : (run config es).Intact := by
  refine run_steps (E := fun _ => True) (P := Intact) ⟨run_untouched config [], sound_empty⟩ ?_ es
    (by simp)
  exact fun s e s' untouched h _ step => ⟨step.untouched untouched, step.sound untouched h.sound⟩

/-- Whatever happens, whatever fails: the store is sound. -/
theorem run_sound (config : Config) (es : List Event) : (run config es).store.Sound := by
  refine run_steps (E := fun _ => True) (P := fun s => s.store.Sound) sound_empty ?_ es (by simp)
  exact fun s e s' untouched h _ step => step.sound untouched h

end Service
end IssueTracker
