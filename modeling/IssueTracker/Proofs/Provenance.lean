import IssueTracker.Proofs.Chronology
import IssueTracker.Proofs.Members
import IssueTracker.Proofs.Rows

/-! Where issues and comments come from. Behind each there is one request, of a caller who
was known, and what it gave them stays as long as they are there: to an issue its id, its
home and who reported it, to a comment all of it. Callers have no say in this, for their
requests are read for other members only. -/

namespace IssueTracker

/-- Two forms of one issue, with what it was given when it was filed. -/
structure Issue.SameOrigin (i j : Issue) : Prop where
  id : j.id = i.id
  project : j.project = i.project
  target : j.target = i.target
  created : j.created = i.created
  activities : j.activities = i.activities

theorem Issue.SameOrigin.refl (i : Issue) : i.SameOrigin i :=
  ⟨rfl, rfl, rfl, rfl, rfl⟩

theorem Issue.SameOrigin.trans {i j k : Issue} (h : i.SameOrigin j) (h' : j.SameOrigin k) :
    i.SameOrigin k :=
  ⟨h'.id.trans h.id, h'.project.trans h.project, h'.target.trans h.target,
    h'.created.trans h.created, h'.activities.trans h.activities⟩

/-- No patch has a say in where an issue comes from. -/
theorem Patch.sameOrigin_apply (p : Patch) (i : Issue) (now : Timestamp) :
    i.SameOrigin { p.apply i with updated := now } :=
  ⟨rfl, rfl, rfl, rfl, rfl⟩

/-- What the clock is read as when a request is handled. -/
def Event.reading? : Event → Option Timestamp
  | .request draw _ _ => some draw.now
  | _ => none

/-- One instant is not after another. -/
def Timestamp.NotAfter (t u : Timestamp) : Prop :=
  ¬ u.units < t.units

theorem Timestamp.NotAfter.refl (t : Timestamp) : t.NotAfter t :=
  List.lt_irrefl _

theorem Timestamp.NotAfter.trans {t u v : Timestamp} (h : t.NotAfter u) (h' : u.NotAfter v) :
    t.NotAfter v :=
  List.le_trans h h'

namespace Store

def HasIssue (s : Store) (id : Uuid) : Prop :=
  ∃ i ∈ s.issues, i.id = id

def HasComment (s : Store) (id : Uuid) : Prop :=
  ∃ c ∈ s.comments, c.id = id

instance (s : Store) (id : Uuid) : Decidable (s.HasIssue id) :=
  inferInstanceAs (Decidable (∃ i ∈ s.issues, i.id = id))

end Store

namespace Sample

/-- The same issue under another title. -/
def retitling : Event :=
  .request (draw Uuid.zero) Faults.none (onIssue "PUT" { summary := some "leaks" })

/-- What the owner reports. -/
def report : Patch :=
  { target := some target.text, summary := some "leak", severity := some .high }

/-- The report back to front, after a member that is not part of it. -/
def padded : List UInt8 :=
  Utf8.encode (Record.object (("id", .null) :: (Patch.record.encode report).reverse)).text.toList

end Sample

namespace Service

/-- By the request a known caller files the issue, against a target that there is. -/
structure Filing (config : Config) (s : Service) (draw : Draw) (faults : Faults) (r : Request)
    (u : User) (t : Target) (i : Issue) : Prop where
  op : r.operation? = some .create
  known : s.store.Knows r u
  named : ∃ p, r.entity? Patch.codec = some p ∧ targetId? p = some t.id
  there : t ∈ s.store.targets
  answered : (s.handle config draw faults r).1.status = 201
  id : i.id = draw.id
  project : i.project = t.project
  target : i.target = t.id
  created : i.created = draw.now
  activities : i.activities = [⟨.reported, draw.reported, some u.id⟩]
  fresh : ¬ s.store.HasIssue i.id

inductive Filed (config : Config) (s : Service) : Event → Issue → Prop where
  | request {draw : Draw} {faults : Faults} {r : Request} {u : User} {t : Target} {i : Issue}
    (filing : Filing config s draw faults r u t i) : Filed config s (.request draw faults r) i

/-- By the request a known caller adds the comment to the issue of the path. -/
structure Adding (config : Config) (s : Service) (draw : Draw) (faults : Faults) (r : Request)
    (u : User) (c : Comment) : Prop where
  op : r.operation? = some .addComment
  known : s.store.Knows r u
  there : s.store.HasIssue c.link
  answered : (s.handle config draw faults r).1.status = 201
  id : c.id = draw.id
  owner : c.owner = u.id
  kind : c.kind = .issue
  link : r.subject? = some c.link
  text : ∃ d, r.entity? CommentDraft.codec = some d ∧ c.text = d.text
  created : c.created = draw.now
  updated : c.updated = draw.now
  fresh : ¬ s.store.HasComment c.id

inductive Added (config : Config) (s : Service) : Event → Comment → Prop where
  | request {draw : Draw} {faults : Faults} {r : Request} {u : User} {c : Comment}
    (adding : Adding config s draw faults r u c) : Added config s (.request draw faults r) c

section Changes

variable {config : Config} {s s' : Service} {e : Event} {i j : Issue} {c d : Comment}

/-- Every form of an issue goes back to the same request. -/
theorem Filed.of_sameOrigin (filed : Filed config s e i) (same : i.SameOrigin j) :
    Filed config s e j := by
  obtain ⟨filing⟩ := filed
  exact .request {
    filing with
    id := same.id.trans filing.id
    project := same.project.trans filing.project
    target := same.target.trans filing.target
    created := same.created.trans filing.created
    activities := same.activities.trans filing.activities
    fresh := same.id ▸ filing.fresh }

theorem Filed.reading (filed : Filed config s e i) : e.reading? = some i.created := by
  obtain ⟨filing⟩ := filed
  exact congrArg some filing.created.symm

theorem Filed.fresh (filed : Filed config s e i) : ¬ s.store.HasIssue i.id := by
  obtain ⟨filing⟩ := filed
  exact filing.fresh

theorem Added.fresh (added : Added config s e c) : ¬ s.store.HasComment c.id := by
  obtain ⟨adding⟩ := added
  exact adding.fresh

/-- An issue that is there after a change was there before it or is filed by it. If it was
there, it is stamped anew or not at all. -/
theorem Change.issue_origin (change : Change config s e s') (hj : j ∈ s'.store.issues) :
    (∃ i ∈ s.store.issues, i.SameOrigin j ∧ (j.updated = i.updated ∨ e.reading? = some j.updated))
      ∨ Filed config s e j ∧ j.updated = j.created := by
  have same (hj : j ∈ s.store.issues) : ∃ i ∈ s.store.issues,
      i.SameOrigin j ∧ (j.updated = i.updated ∨ e.reading? = some j.updated) :=
    ⟨j, hj, .refl j, .inl rfl⟩
  cases change with
  | kept issues => exact .inl (same (issues ▸ hj))
  | filed op known entity named _ target answered fresh issues =>
    rw [issues, List.mem_append, List.mem_singleton] at hj
    rcases hj with hj | rfl
    · exact .inl (same hj)
    · refine .inr ⟨.request ⟨op, known, ⟨_, entity, named⟩, target, answered, rfl, rfl, rfl, rfl,
        rfl, ?_⟩, rfl⟩
      rintro ⟨o, ho, taken⟩
      exact fresh o ho taken
  | rewritten _ _ old issues =>
    rw [issues] at hj
    rcases Issue.mem_replaced hj with rfl | ⟨hj, -⟩
    · exact .inl ⟨_, old, Patch.sameOrigin_apply _ _ _, .inr rfl⟩
    · exact .inl (same hj)
  | dropped issues =>
    rw [issues] at hj
    exact .inl (same (List.mem_filter.1 hj).1)
  | added _ _ _ _ _ _ _ issues => exact .inl (same (issues ▸ hj))

theorem Change.comment_origin (change : Change config s e s') (hc : c ∈ s'.store.comments) :
    c ∈ s.store.comments ∨ Added config s e c := by
  cases change with
  | kept _ comments | rewritten _ _ _ _ comments => exact .inl (comments ▸ hc)
  | filed _ _ _ _ _ _ _ _ _ comments => exact .inl (comments ▸ hc)
  | dropped _ comments =>
    rw [comments] at hc
    exact .inl (List.mem_filter.1 hc).1
  | added op known named old entity answered fresh _ comments =>
    rw [comments, List.mem_append, List.mem_singleton] at hc
    rcases hc with hc | rfl
    · exact .inl hc
    · refine .inr (.request ⟨op, known, ⟨_, old, rfl⟩, answered, rfl, rfl, rfl, named,
        ⟨_, entity, rfl⟩, rfl, rfl, ?_⟩)
      rintro ⟨o, ho, taken⟩
      exact fresh o ho taken

/-- Two issues of one id, before and after a change, are forms of one issue. -/
theorem Change.issue_kept (sound : s.store.Sound) (change : Change config s e s')
    (hi : i ∈ s.store.issues) (hj : j ∈ s'.store.issues) (same : j.id = i.id) :
    i.SameOrigin j ∧ (j.updated = i.updated ∨ e.reading? = some j.updated) := by
  rcases change.issue_origin hj with ⟨o, ho, origin, stamped⟩ | ⟨filed, -⟩
  · obtain rfl := sound.eq_of_id ho hi (origin.id.symm.trans same)
    exact ⟨origin, stamped⟩
  · exact absurd ⟨i, hi, same.symm⟩ filed.fresh

/-- A comment is never written again. -/
theorem Change.comment_kept (sound : s.store.Sound) (change : Change config s e s')
    (hc : c ∈ s.store.comments) (hd : d ∈ s'.store.comments) (same : d.id = c.id) : d = c := by
  rcases change.comment_origin hd with hd | added
  · exact List.inj_on_of_nodup_map sound.commentIds hd hc same
  · exact absurd ⟨c, hc, same.symm⟩ added.fresh

end Changes

section Runs

variable {config : Config} {P : Store → Prop} {es fs : List Event} {e : Event}

/-- It holds after a history and then after each event that follows. -/
def Throughout (config : Config) (es fs : List Event) (P : Store → Prop) : Prop :=
  ∀ gs, gs <+: fs → P (run config (es ++ gs)).store

theorem throughout_nil (h : P (run config es).store) : Throughout config es [] P := by
  intro gs before
  rwa [List.prefix_nil.1 before, List.append_nil]

theorem throughout_concat : Throughout config es (fs ++ [e]) P ↔
    Throughout config es fs P ∧ P (run config (es ++ fs ++ [e])).store := by
  constructor
  · refine fun h => ⟨fun gs before => h gs (before.trans (List.prefix_append _ _)), ?_⟩
    rw [List.append_assoc]
    exact h _ (List.prefix_refl _)
  · rintro ⟨h, last⟩ gs before
    rcases List.prefix_concat_iff.1 before with rfl | before
    · rwa [← List.append_assoc]
    · exact h gs before

/-- Behind every issue that is there is a request that filed it, and it has been there ever
since. -/
theorem run_filed (config : Config) (es : List Event) : ∀ j ∈ (run config es).store.issues,
    ∃ before e later, es = before ++ e :: later ∧ Filed config (run config before) e j
      ∧ Throughout config (before ++ [e]) later (·.HasIssue j.id) := by
  induction es using List.reverseRecOn with
  | nil => exact fun j hj => nomatch hj
  | append_singleton es e ih =>
    intro j hj
    rcases (change_concat config es e).issue_origin hj with ⟨i, hi, origin, -⟩ | ⟨filed, -⟩
    · obtain ⟨before, e', later, rfl, filed, there⟩ := ih i hi
      refine ⟨before, e', later ++ [e], by simp, filed.of_sameOrigin origin, ?_⟩
      rw [← origin.id] at there
      refine throughout_concat.2 ⟨there, j, ?_, rfl⟩
      simpa using hj
    · exact ⟨es, e, [], rfl, filed, throughout_nil ⟨j, hj, rfl⟩⟩

theorem run_added (config : Config) (es : List Event) : ∀ c ∈ (run config es).store.comments,
    ∃ before e later, es = before ++ e :: later ∧ Added config (run config before) e c
      ∧ Throughout config (before ++ [e]) later (·.HasComment c.id) := by
  induction es using List.reverseRecOn with
  | nil => exact fun c hc => nomatch hc
  | append_singleton es e ih =>
    intro c hc
    rcases (change_concat config es e).comment_origin hc with old | added
    · obtain ⟨before, e', later, rfl, added, there⟩ := ih c old
      refine ⟨before, e', later ++ [e], by simp, added, throughout_concat.2 ⟨there, c, ?_, rfl⟩⟩
      simpa using hc
    · exact ⟨es, e, [], rfl, added, throughout_nil ⟨c, hc, rfl⟩⟩

/-- What the clock was read as for the requests of a history, one after another. -/
def readings (es : List Event) : List Timestamp :=
  es.filterMap Event.reading?

theorem readings_concat (es : List Event) (e : Event) :
    readings (es ++ [e]) = readings es ++ e.reading?.toList := by
  rw [readings, List.filterMap_append, readings]
  cases h : e.reading? <;> simp [h]

/-- The stamps of an issue are what the clock was read as for some of the requests. -/
theorem run_stamps (config : Config) (es : List Event) :
    ∀ i ∈ (run config es).store.issues, i.created ∈ readings es ∧ i.updated ∈ readings es := by
  induction es using List.reverseRecOn with
  | nil => exact fun i hi => nomatch hi
  | append_singleton es e ih =>
    intro j hj
    have now {t : Timestamp} (read : e.reading? = some t) : t ∈ readings (es ++ [e]) := by
      rw [readings_concat, read]
      exact List.mem_append_right _ (List.mem_singleton_self t)
    have before {t : Timestamp} (ht : t ∈ readings es) : t ∈ readings (es ++ [e]) := by
      rw [readings_concat]
      exact List.mem_append_left _ ht
    rcases (change_concat config es e).issue_origin hj with ⟨i, hi, origin, stamped⟩ | ⟨filed, same⟩
    · obtain ⟨created, updated⟩ := ih i hi
      rw [origin.created]
      rcases stamped with same | read
      · exact ⟨before created, same ▸ before updated⟩
      · exact ⟨before created, now read⟩
    · rw [same]
      exact ⟨now filed.reading, now filed.reading⟩

/-- The clock is never read as less than before. -/
def Forward (es : List Event) : Prop :=
  (readings es).Pairwise Timestamp.NotAfter

theorem forward_concat : Forward (es ++ [e]) ↔
    Forward es ∧ ∀ t ∈ readings es, ∀ u ∈ e.reading?, t.NotAfter u := by
  rw [Forward, readings_concat, List.pairwise_append]
  cases e.reading? <;> simp [Forward]

/-- As long as an issue is there it keeps its origin, and its stamp only moves on. -/
theorem run_issue_kept {i : Issue} (hi : i ∈ (run config es).store.issues)
    (there : Throughout config es fs (·.HasIssue i.id)) :
    ∀ j ∈ (run config (es ++ fs)).store.issues, j.id = i.id →
      i.SameOrigin j ∧ (Forward (es ++ fs) → i.updated.NotAfter j.updated) := by
  induction fs using List.reverseRecOn with
  | nil =>
    intro j hj same
    rw [List.append_nil] at hj
    obtain rfl := (run_intact config es).sound.eq_of_id hj hi same
    exact ⟨.refl j, fun _ => .refl _⟩
  | append_singleton fs e ih =>
    intro j hj same
    rw [← List.append_assoc] at hj ⊢
    obtain ⟨before, -⟩ := throughout_concat.1 there
    obtain ⟨k, hk, id⟩ := before fs (List.prefix_refl _)
    obtain ⟨origin, forward⟩ := ih before k hk id
    obtain ⟨step, stamped⟩ := (change_concat config (es ++ fs) e).issue_kept
      (run_intact config _).sound hk hj (same.trans id.symm)
    refine ⟨origin.trans step, fun clock => ?_⟩
    obtain ⟨clock, later⟩ := forward_concat.1 clock
    rcases stamped with same | now
    · rw [same]
      exact forward clock
    · exact (forward clock).trans (later _ (run_stamps config _ k hk).2 _ now)

theorem run_comment_kept {c : Comment} (hc : c ∈ (run config es).store.comments)
    (there : Throughout config es fs (·.HasComment c.id)) :
    ∀ d ∈ (run config (es ++ fs)).store.comments, d.id = c.id → d = c := by
  induction fs using List.reverseRecOn with
  | nil =>
    intro d hd same
    rw [List.append_nil] at hd
    exact List.inj_on_of_nodup_map (run_intact config es).sound.commentIds hd hc same
  | append_singleton fs e ih =>
    intro d hd same
    rw [← List.append_assoc] at hd
    obtain ⟨before, -⟩ := throughout_concat.1 there
    obtain ⟨k, hk, id⟩ := before fs (List.prefix_refl _)
    obtain rfl := ih before k hk id
    exact (change_concat config (es ++ fs) e).comment_kept (run_intact config _).sound hk hd same

/-- No issue is stamped as written before it was filed. -/
theorem run_created_le (config : Config) (es : List Event) : Forward es →
    ∀ i ∈ (run config es).store.issues, i.created.NotAfter i.updated := by
  induction es using List.reverseRecOn with
  | nil => exact fun _ i hi => nomatch hi
  | append_singleton es e ih =>
    intro clock j hj
    obtain ⟨clock, later⟩ := forward_concat.1 clock
    rcases (change_concat config es e).issue_origin hj with ⟨i, hi, origin, stamped⟩ | ⟨-, same⟩
    · rw [origin.created]
      rcases stamped with same | now
      · rw [same]
        exact ih clock i hi
      · exact later _ (run_stamps config es i hi).1 _ now
    · exact same ▸ .refl _

end Runs

/-- What is certain about where issues and comments come from. -/
structure Provenance (config : Config) : Prop where
  filed : ∀ es, ∀ i ∈ (run config es).store.issues,
    ∃ before e later, es = before ++ e :: later ∧ Filed config (run config before) e i
      ∧ Throughout config (before ++ [e]) later (·.HasIssue i.id)
  kept : ∀ es fs, ∀ i ∈ (run config es).store.issues,
    Throughout config es fs (·.HasIssue i.id) →
    ∀ j ∈ (run config (es ++ fs)).store.issues, j.id = i.id →
      i.SameOrigin j ∧ (Forward (es ++ fs) → i.updated.NotAfter j.updated)
  stamped : ∀ es, Forward es →
    ∀ i ∈ (run config es).store.issues, i.created.NotAfter i.updated
  added : ∀ es, ∀ c ∈ (run config es).store.comments,
    ∃ before e later, es = before ++ e :: later ∧ Added config (run config before) e c
      ∧ Throughout config (before ++ [e]) later (·.HasComment c.id)
  unchanged : ∀ es fs, ∀ c ∈ (run config es).store.comments,
    Throughout config es fs (·.HasComment c.id) →
    ∀ d ∈ (run config (es ++ fs)).store.comments, d.id = c.id → d = c
  /-- The members that are no fields of what is read, and the order of all, do not count. -/
  padded : ∀ (s : Service) (draw : Draw) (faults : Faults) (r : Request) (body : List UInt8)
    (op : Operation) (ms ns extra : List (Json.Quoted × Json)), r.operation? = some op →
    r.Holds ms → { r with body := body }.Holds ns → ns.Perm (ms ++ extra) →
    (∀ m ∈ extra, Record.Foreign op.fields m) →
    s.handle config draw faults { r with body := body } = s.handle config draw faults r

/-- Callers can neither forge nor change where something comes from. -/
theorem run_provenance (config : Config) : Provenance config where
  filed := run_filed config
  kept _ _ _ hi there := run_issue_kept hi there
  stamped := run_created_le config
  added := run_added config
  unchanged _ _ _ hc there := run_comment_kept hc there
  padded s draw faults _ _ _ _ _ _ hop holds holds' padded foreign :=
    handle_padded s config draw faults hop holds holds' padded foreign

open Sample in
/-- The issue is still the one that was reported when it has got another title, and it would
be the same one if an id had been reported with it. -/
theorem run_provenance_retitled :
    (∃ i ∈ filed.store.issues, ∃ j ∈ (run config (founding ++ [filing] ++ [retitling])).store.issues,
      i.SameOrigin j ∧ j.summary ≠ i.summary)
    ∧ (run config founding).handle config (draw issue) Faults.none
        { request "POST" "/api/v1/issues" report with body := padded } =
      (run config founding).handle config (draw issue) Faults.none
        (request "POST" "/api/v1/issues" report)
    ∧ ((run config founding).handle config (draw issue) Faults.none
        (request "POST" "/api/v1/issues" report)).1.status = 201 := by
  have provenance := run_provenance config
  have titles : (∃ i ∈ filed.store.issues, i.id = issue ∧ i.summary = "leak")
      ∧ ∃ j ∈ (run config (founding ++ [filing] ++ [retitling])).store.issues,
        j.id = issue ∧ j.summary = "leaks" := by
    rw [List.append_assoc, List.singleton_append, run_filing, filed_eq]
    decide +kernel
  obtain ⟨⟨i, hi, id, title⟩, j, hj, id', title'⟩ := titles
  have there : Throughout config (founding ++ [filing]) ([] ++ [retitling]) (·.HasIssue i.id) :=
    throughout_concat.2 ⟨throughout_nil ⟨i, hi, rfl⟩, j, hj, id'.trans id.symm⟩
  refine ⟨⟨i, hi, j, hj, ?_, by rw [title, title']; decide⟩, ?_, ?_⟩
  · exact (provenance.kept _ _ i hi there j hj (id'.trans id.symm)).1
  · have fields : ∀ m ∈ Patch.record.encode report, m.2.Written := by
      change ∀ m ∈ [("target", Codec.text.encode target.text),
        ("summary", Codec.text.encode "leak"), ("severity", Severity.codec.encode .high)], _
      simp only [List.forall_mem_cons]
      exact ⟨Json.written_str _, Json.written_str _, Json.written_str _, by simp⟩
    have all : ∀ m ∈ ("id", .null) :: (Patch.record.encode report).reverse, m.2.Written :=
      List.forall_mem_cons.2 ⟨by simp [Json.Written, Json.tokens, Json.Token.Written],
        fun m hm => fields m (List.mem_reverse.1 hm)⟩
    have holds : (request "POST" "/api/v1/issues" report).Holds _ :=
      Request.holds_object fields rfl (by decide +kernel)
    have holds' : { request "POST" "/api/v1/issues" report with body := padded }.Holds _ :=
      Request.holds_object all rfl (by decide +kernel)
    refine provenance.padded _ _ _ _ _ .create _ _ [(Json.Quoted.ofString "id", .null)]
      (by decide +kernel) holds holds' ?_ ?_
    · exact (((List.reverse_perm _).map _).cons _).trans (List.perm_append_singleton _ _).symm
    · exact List.forall_mem_singleton.2 ⟨"id", Json.Quoted.text?_ofString _, by decide⟩
  · decide +kernel

end Service
end IssueTracker
