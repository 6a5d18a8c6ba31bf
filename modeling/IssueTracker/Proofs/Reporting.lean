import IssueTracker.Proofs.Limits
import IssueTracker.Proofs.Outcomes
import IssueTracker.Proofs.Tallies

/-! What a request to file an issue comes to. Seven checks decide it, in a fixed order, and
each of them reads the body, one row or the rows of one table; that the project of a target
is there need not be checked, since it always is (`Store.Hosted`). An issue that is filed says
what its patch says, and is all that was written. A unique id is refused for the sake of the
rows of its target that have it now: who had it before does not matter. -/

namespace IssueTracker

/-- The issue says what the patch says, and nothing where the patch is silent. -/
structure Issue.MadeOf (p : Patch) (t : Target) (user : Uuid) (d : Draw) (i : Issue) : Prop where
  id : i.id = d.id
  project : i.project = t.project
  target : i.target = t.id
  uniqId : i.uniqId = p.uniqId.filter fun n => n ≠ ""
  summary : p.summary = some i.summary
  desc : i.desc = p.desc.getD ""
  severity : p.severity = some i.severity
  urls : i.urls = p.urls.getD []
  extras : i.extras = p.extras.getD []
  references : i.references = p.references.getD []
  confirmed : i.confirmed = p.confirmed.getD false
  falsePositive : i.falsePositive = p.falsePositive.getD false
  muted : i.muted = p.muted.getD false
  resolved : i.resolved = p.resolved.getD false
  created : i.created = d.now
  updated : i.updated = d.now
  activities : i.activities = [⟨.reported, d.reported, some user⟩]

/-- The unique id of a new issue: the empty text is none. -/
theorem Patch.uniqId_new (p : Patch) :
    (p.uniqId.map storedUniqId).getD none = p.uniqId.filter fun n => n ≠ "" := by
  cases p.uniqId with
  | none => rfl
  | some n =>
    rw [Option.map_some, Option.getD_some, storedUniqId, Option.filter_some]
    by_cases empty : n = ""
    · simp [empty]
    · simp [empty, String.isEmpty_iff]

namespace Store

/-- Every target is of a project that is there. -/
def Hosted (s : Store) : Prop :=
  ∀ t ∈ s.targets, ∃ p ∈ s.projects, p.id = t.project

namespace Hosted

variable {s s' : Store} (h : s.Hosted)
include h

theorem grow (targets : ∀ t ∈ s'.targets, ∃ o ∈ s.targets, o.project = t.project)
    (projects : s.projects ⊆ s'.projects) : s'.Hosted := by
  intro t ht
  obtain ⟨o, ho, same⟩ := targets t ht
  obtain ⟨p, hp, home⟩ := h o ho
  exact ⟨p, projects hp, home.trans same⟩

theorem same (targets : s'.targets = s.targets) (projects : s'.projects = s.projects) :
    s'.Hosted :=
  h.grow (fun t ht => ⟨t, targets ▸ ht, rfl⟩) (projects ▸ List.Subset.refl _)

/-- A target is entered for a project that is there, or not at all. -/
theorem addTarget (untouched : s.Untouched) (t : Target)
    (hs : (Query.pooled (Store.addTarget t) s).2 = s') : s'.Hosted := by
  rcases pooled_write hs with rfl | ⟨a, added⟩
  · exact h
  · simp only [untouched.need, ok_bind, throw_bind] at added
    split_ifs at added with taken home
    obtain ⟨-, rfl⟩ := pure_eq_ok.1 added
    obtain ⟨p, hp⟩ := Option.ne_none_iff_exists'.1 (by simpa using home)
    rw [enrol_of_full _ (by exact untouched.full)]
    simp only [Hosted, List.forall_mem_append, List.forall_mem_singleton]
    exact ⟨h, p, List.mem_of_find?_eq_some hp, by simpa using List.find?_some hp⟩

theorem putSummary (untouched : s.Untouched) (t : Uuid) (v : Summary) (now : Timestamp) :
    (s.putSummary t v now).Hosted := by
  rw [untouched.putSummary]
  refine h.grow (fun o' ho' => ?_) (List.Subset.refl _)
  obtain ⟨o, ho, rfl⟩ := List.mem_map.1 ho'
  refine ⟨o, ho, ?_⟩
  split <;> rfl

end Hosted

end Store

namespace Service

variable {config : Config}

theorem Turn.projects {draw : Draw} {r : Request} {s s' : Store} {o : Outcome}
    (turn : Turn draw r s o s') : s'.projects = s.projects := by
  cases turn <;> rfl

theorem after_hosted {s : Service} (h : s.store.Untouched) (hosted : s.store.Hosted) (e : Event) :
    (s.after config e).store.Hosted := by
  cases e with
  | addUser u =>
    change (Query.pooled (Store.addUser u) s.store).2.Hosted
    rcases Store.added_user h u rfl with same | ⟨-, ns, more⟩
    · rwa [same]
    · rw [more]
      exact hosted.same rfl rfl
  | addToken token user now =>
    change (Query.pooled (Store.addToken (tokenRow token user now)) s.store).2.Hosted
    rcases Store.added_token h (tokenRow token user now) rfl with same | ⟨-, more⟩
    · rwa [same]
    · rw [more]
      exact hosted.same rfl rfl
  | addProject p =>
    change (Query.pooled (Store.addProject p) s.store).2.Hosted
    rcases Store.added_project h p rfl with same | ⟨ns, more⟩
    · rwa [same]
    · rw [more]
      exact hosted.grow (fun t ht => ⟨t, ht, rfl⟩) (List.subset_append_left _ _)
  | addMember m =>
    change (Query.pooled (Store.addMember m) s.store).2.Hosted
    rcases Store.added_member h m rfl with same | more
    · rwa [same]
    · rw [more]
      exact hosted.same rfl rfl
  | addTarget id project name now => exact hosted.addTarget h _ rfl
  | request draw faults r =>
    obtain ⟨o, store, turn, he⟩ := handle_turn config draw faults r h
    rw [after, he]
    exact hosted.same turn.targets turn.projects
  | work now faults =>
    rcases work_cases h now faults with ⟨-, same⟩ | ⟨t, rest, store, -, leaves, worked⟩
    · rwa [after, same]
    · rw [after, worked]
      rcases leaves with ⟨rfl, -⟩ | ⟨v, -, rfl⟩
      · exact hosted
      · exact hosted.putSummary h t v now

theorem run_hosted (config : Config) (es : List Event) : (run config es).store.Hosted := by
  refine (run_induction (P := fun s => s.store.Untouched ∧ s.store.Hosted)
    ⟨⟨rfl, rfl, rfl, rfl⟩, by simp [Store.Hosted]⟩ ?_ es).2
  intro s e ⟨h, hosted⟩
  exact ⟨(after_step h e).untouched h, after_hosted h hosted e⟩

/-- How a request to file an issue is decided: the first check that fails is what is
answered, and if none does an issue is filed. -/
inductive Reported (s : Store) (r : Request) (u : User) (d : Draw) :
    Except Refusal Issue → Prop where
  | unreadable (entity : r.entity? Patch.codec = none) : Reported s r u d (.error .wrongEntity)
  | unnamed {p : Patch} (entity : r.entity? Patch.codec = some p)
    (named : p.target.bind Uuid.ofString? = none) :
    Reported s r u d (.error (.badRequest "Target is wrong"))
  | invalid {p : Patch} {id : Uuid} (entity : r.entity? Patch.codec = some p)
    (named : p.target.bind Uuid.ofString? = some id) (invalid : p.creationViolations ≠ []) :
    Reported s r u d (.error (validationRefusal p.creationViolations))
  | unknown {p : Patch} {id : Uuid} (entity : r.entity? Patch.codec = some p)
    (named : p.target.bind Uuid.ofString? = some id) (valid : p.creationViolations = [])
    (unknown : ∀ t ∈ s.targets, t.id ≠ id) :
    Reported s r u d (.error (.badRequest "Target not found"))
  | closed {p : Patch} {t : Target} (entity : r.entity? Patch.codec = some p)
    (named : p.target.bind Uuid.ofString? = some t.id) (valid : p.creationViolations = [])
    (target : t ∈ s.targets) (closed : ¬ s.Entitles u t.project) :
    Reported s r u d (.error .forbidden)
  | held {p : Patch} {t : Target} (entity : r.entity? Patch.codec = some p)
    (named : p.target.bind Uuid.ofString? = some t.id) (valid : p.creationViolations = [])
    (target : t ∈ s.targets) (access : s.Entitles u t.project)
    (held : ∃ o ∈ s.issues, o.Holds t.id p.uniqId) : Reported s r u d (.error .taken)
  /-- The id that was drawn is no new one, which is refused in the same words. -/
  | redrawn {p : Patch} {t : Target} (entity : r.entity? Patch.codec = some p)
    (named : p.target.bind Uuid.ofString? = some t.id) (valid : p.creationViolations = [])
    (target : t ∈ s.targets) (access : s.Entitles u t.project)
    (free : ∀ o ∈ s.issues, ¬ o.Holds t.id p.uniqId) (redrawn : ∃ o ∈ s.issues, o.id = d.id) :
    Reported s r u d (.error .taken)
  | filed {p : Patch} {t : Target} {i : Issue} (entity : r.entity? Patch.codec = some p)
    (named : p.target.bind Uuid.ofString? = some t.id) (valid : p.creationViolations = [])
    (target : t ∈ s.targets) (access : s.Entitles u t.project)
    (free : ∀ o ∈ s.issues, ¬ o.Holds t.id p.uniqId) (fresh : ∀ o ∈ s.issues, o.id ≠ d.id)
    (made : i.MadeOf p t u.id d) : Reported s r u d (.ok i)

section Filing

variable {s : Store} {p : Patch} {t : Target} {d : Draw} {i : Issue}

/-- A valid patch makes an issue, and no other. -/
theorem madeOf_iff (valid : p.creationViolations = []) (user : Uuid) :
    i.MadeOf p t user d ↔ i = newIssue p t user d := by
  have complete := (Patch.creationViolations_eq_nil.1 valid).2
  obtain ⟨summary, hs⟩ := Option.ne_none_iff_exists'.1 (complete .summary)
  obtain ⟨severity, hv⟩ := Option.ne_none_iff_exists'.1 (complete .severity)
  have uniqId := p.uniqId_new
  constructor
  · intro h
    obtain ⟨_, _, _, _, _, _, _, _, _, _, _, _, _, _, _, _, _⟩ := i
    obtain ⟨rfl, rfl, rfl, rfl, summary', rfl, severity', rfl, rfl, rfl, rfl, rfl, rfl, rfl, rfl,
      rfl, rfl⟩ := h
    obtain rfl := Option.some.inj (hs.symm.trans summary')
    obtain rfl := Option.some.inj (hv.symm.trans severity')
    simp only [newIssue, Issue.reportedBy, Patch.apply, Issue.blank, uniqId, hs, hv,
      Option.getD_some, List.nil_append]
  · rintro rfl
    refine ⟨rfl, rfl, rfl, uniqId, ?_, rfl, ?_, rfl, rfl, rfl, rfl, rfl, rfl, rfl, rfl, rfl, rfl⟩
    · simp only [newIssue, Issue.reportedBy, Patch.apply, hs, Option.getD_some]
    · simp only [newIssue, Issue.reportedBy, Patch.apply, hv, Option.getD_some]

/-- Who clashes with a new issue holds its unique id. -/
theorem clashes_newIssue_iff {o : Issue} (user : Uuid) :
    (newIssue p t user d).clashes o = true ↔ o.Holds t.id p.uniqId := by
  have own : (newIssue p t user d).uniqId = p.uniqId.filter fun n => n ≠ "" :=
    p.uniqId_new
  have target : (newIssue p t user d).target = t.id := rfl
  rw [Issue.clashes, own, target, Issue.Holds]
  cases p.uniqId with
  | none => simp
  | some n =>
    rw [Option.filter_some]
    by_cases empty : n = ""
    · simp [empty]
    · simp [empty, @eq_comm _ t.id, @eq_comm _ (some n)]

/-- One of the cases always applies. -/
theorem reported_total (s : Store) (r : Request) (u : User) (d : Draw) :
    ∃ v, Reported s r u d v := by
  cases entity : r.entity? Patch.codec with
  | none => exact ⟨_, .unreadable entity⟩
  | some p =>
  cases named : p.target.bind Uuid.ofString? with
  | none => exact ⟨_, .unnamed entity named⟩
  | some id =>
  by_cases valid : p.creationViolations = []
  · by_cases target : ∃ t ∈ s.targets, t.id = id
    · obtain ⟨t, ht, rfl⟩ := target
      by_cases access : s.Entitles u t.project
      · by_cases held : ∃ o ∈ s.issues, o.Holds t.id p.uniqId
        · exact ⟨_, .held entity named valid ht access held⟩
        have free : ∀ o ∈ s.issues, ¬ o.Holds t.id p.uniqId := by simpa using held
        by_cases redrawn : ∃ o ∈ s.issues, o.id = d.id
        · exact ⟨_, .redrawn entity named valid ht access free redrawn⟩
        · exact ⟨_, .filed entity named valid ht access free (by simpa using redrawn)
            ((madeOf_iff valid u.id).2 rfl)⟩
      · exact ⟨_, .closed entity named valid ht access⟩
    · exact ⟨_, .unknown entity named valid fun t ht same => target ⟨t, ht, same⟩⟩
  · exact ⟨_, .invalid entity named valid⟩

/-- What a decision is answered with. -/
def Outcome.ofReport : Except Refusal Issue → Outcome
  | .error e => ⟨e.response, none⟩
  | .ok i => ⟨Response.of 201 (.json (Issue.codec.encode i)), some i.target⟩

/-- The store after a decision. -/
def reportedIn (s : Store) : Except Refusal Issue → Store
  | .error _ => s
  | .ok i => { s with
      issues := s.issues ++ [i]
      numbers := s.numbers ++ [⟨.issues, i.id, s.nextNumber .issues⟩] }

section Handler

variable {c : Context} {o : Outcome} {s' : Store} (h : s.Untouched)
include h

/-- Behind the checks of the body a target is looked for. -/
theorem comes_lookup {id : Uuid} (entity : c.request.entity? Patch.codec = some p)
    (named : p.target.bind Uuid.ofString? = some id) (valid : p.creationViolations = [])
    (next : Comes (do
      let target ← Action.require (s.findTargetRow id) (.badRequest "Target not found")
      ensureAccess c.user target.project
      let issue ← Action.ask (Store.addIssue (newIssue p target c.user.id c.draw))
        (.ofWrite "failed to create issue")
      return ⟨201, some (Issue.codec.encode issue), some issue.target⟩) ⟨s, none⟩ o s') :
    Comes (Operation.handler .create c) ⟨s, none⟩ o s' := by
  unfold Operation.handler createIssue
  refine .require_some entity (.require_some named ?_)
  rw [valid]
  exact .fetch h.acquire (.fetch (h.findTarget_eq id) next)

/-- A caller with access gets as far as the statement that adds the issue. -/
theorem comes_addIssue (sound : s.Sound) (entity : c.request.entity? Patch.codec = some p)
    (named : p.target.bind Uuid.ofString? = some t.id) (valid : p.creationViolations = [])
    (target : t ∈ s.targets) (access : s.Entitles c.user t.project)
    (next : Comes (do
      let issue ← Action.ask (Store.addIssue (newIssue p t c.user.id c.draw))
        (.ofWrite "failed to create issue")
      return ⟨201, some (Issue.codec.encode issue), some issue.target⟩) ⟨s, none⟩ o s') :
    Comes (Operation.handler .create c) ⟨s, none⟩ o s' := by
  have found : s.findTargetRow t.id = some t :=
    (Store.find?_key_iff sound.targetIds).2 ⟨target, rfl⟩
  exact comes_lookup h entity named valid (.require_some found (.admitted h access next))

end Handler

/-- A unique id that nobody holds does not clash. -/
theorem apart_of_free {user : Uuid} (free : ∀ o ∈ s.issues, ¬ o.Holds t.id p.uniqId) :
    ¬ (s.issues.any fun o => (newIssue p t user d).clashes o) = true := by
  rw [List.any_eq_true]
  rintro ⟨o, ho, clash⟩
  exact free o ho ((clashes_newIssue_iff user).1 clash)

variable (h : s.Untouched) (sound : s.Sound) (hosted : s.Hosted)
include h sound hosted

/-- Nothing else is asked of an issue whose unique id is free and whose id is new. -/
theorem addIssue_new {user : Uuid} (target : t ∈ s.targets)
    (free : ∀ o ∈ s.issues, ¬ o.Holds t.id p.uniqId) (fresh : ∀ o ∈ s.issues, o.id ≠ d.id) :
    Store.addIssue (newIssue p t user d) s =
      (.ok (newIssue p t user d), reportedIn s (.ok (newIssue p t user d))) := by
  obtain ⟨project, hp, home⟩ := hosted t target
  have new : ¬ (s.issues.any fun o => o.id == (newIssue p t user d).id) = true := by
    rw [List.any_eq_true]
    rintro ⟨o, ho, same⟩
    exact fresh o ho (beq_iff_eq.1 same)
  have there : s.findProject t.project ≠ none := fun missing => by
    simpa [home] using List.find?_eq_none.1 missing project hp
  have found : s.findTargetRow t.id = some t :=
    (Store.find?_key_iff sound.targetIds).2 ⟨target, rfl⟩
  have homed : ¬ ((s.findProject t.project).isNone || (s.findTargetRow t.id).isNone) = true := by
    simp [there, found]
  rw [h.addIssue_eq, if_neg (apart_of_free free), if_neg new]
  exact if_neg homed

theorem comes_create {c : Context} {v : Except Refusal Issue}
    (decided : Reported s c.request c.user c.draw v) :
    Comes (Operation.handler .create c) ⟨s, none⟩ (.ofReport v) (reportedIn s v) := by
  cases decided with
  | unreadable entity => exact .require_none entity
  | unnamed entity named => exact .require_some entity (.require_none named)
  | invalid entity named invalid =>
    refine .require_some entity (.require_some named ?_)
    dsimp only
    rw [if_pos (by simpa using invalid)]
    exact .refused
  | unknown entity named valid unknown =>
    refine comes_lookup h entity named valid (.require_none ?_)
    exact List.find?_eq_none.2 fun t ht => by simpa using unknown t ht
  | @closed p t entity named valid target closed =>
    have found : s.findTargetRow t.id = some t :=
      (Store.find?_key_iff sound.targetIds).2 ⟨target, rfl⟩
    exact comes_lookup h entity named valid (.require_some found (.forbidden h closed))
  | @held p t entity named valid target access held =>
    obtain ⟨o, ho, held⟩ := held
    have clash : (s.issues.any fun o => (newIssue p t c.user.id c.draw).clashes o) = true :=
      List.any_eq_true.2 ⟨o, ho, (clashes_newIssue_iff _).2 held⟩
    have rejected : Store.addIssue (newIssue p t c.user.id c.draw) s =
        (.error (.notUnique s.uniqIdColumns), s) := by
      rw [h.addIssue_eq, if_pos clash]
    exact comes_addIssue h sound entity named valid target access (.ask_error rejected rfl)
  | @redrawn p t entity named valid target access free redrawn =>
    obtain ⟨o, there, same⟩ := redrawn
    have taken : (s.issues.any fun o => o.id == (newIssue p t c.user.id c.draw).id) = true :=
      List.any_eq_true.2 ⟨o, there, beq_iff_eq.2 same⟩
    have rejected : Store.addIssue (newIssue p t c.user.id c.draw) s =
        (.error (.sameKey (s.columnOf .issues "id")), s) := by
      rw [h.addIssue_eq, if_neg (apart_of_free free), if_pos taken]
    exact comes_addIssue h sound entity named valid target access (.ask_error rejected rfl)
  | @filed p t i entity named valid target access free fresh made =>
    obtain rfl := (madeOf_iff valid c.user.id).1 made
    exact comes_addIssue h sound entity named valid target access
      (.ask_ok (addIssue_new h sound hosted target free fresh) .reply)

end Filing

/-- A request that is decided this way is answered accordingly, and nothing but the issue
that it files, if any, comes of it: a row behind the others, and a recomputation. -/
def Settled (s : Service) (draw : Draw) (r : Request) (v : Except Refusal Issue)
    (result : Response × Service) : Prop :=
  match v with
  | .error e => result = (stamp draw r e.response, s)
  | .ok i => ∃ ns, result = (stamp draw r (Response.of 201 (.json (Issue.codec.encode i))),
      ⟨{ s.store with issues := s.store.issues ++ [i], numbers := ns }, s.queue ++ [i.target]⟩)

/-- The request gives up the unique id of an issue: it deletes the issue, or sets another
unique id or none. -/
def Frees (r : Request) (i : Issue) : Prop :=
  r.subject? = some i.id ∧ (r.operation? = some .delete ∨ r.operation? = some .update
    ∧ ∃ p n, r.entity? Patch.codec = some p ∧ p.uniqId = some n ∧ some n ≠ i.uniqId)

theorem handle_create (config : Config) (draw : Draw) {r : Request} {s : Service} {u : User}
    (h : s.store.Untouched) (sound : s.store.Sound) (hosted : s.store.Hosted)
    (known : s.store.Knows r u) (op : r.operation? = some .create) {v : Except Refusal Issue}
    (decided : Reported s.store r u draw v) :
    Settled s draw r v (s.handle config draw Faults.none r) := by
  have comes := handle_comes known op fun captures _ =>
    @comes_create s.store h sound hosted ⟨config, draw, r, captures, u⟩ v decided
  cases v with
  | error e => simpa [Settled, Outcome.ofReport, reportedIn] using comes
  | ok i => exact ⟨_, comes⟩

/-- What holds a unique id no more once it was given up. -/
theorem not_holds_freed {config : Config} {draw : Draw} {faults : Faults} {r : Request}
    {s : Service} {i : Issue} (h : s.store.Untouched) (sound : s.store.Sound)
    (hi : i ∈ s.store.issues) (frees : Frees r i)
    (done : (s.handle config draw faults r).1.isSuccess) :
    ∀ o ∈ (s.handle config draw faults r).2.store.issues, ¬ o.Holds i.target i.uniqId := by
  obtain ⟨outcome, store, effect, he⟩ := handle_eq config draw faults r s
  obtain ⟨named, ops⟩ := frees
  rw [he]
  rw [he, stamp_isSuccess] at done
  rintro o ho ⟨target, n, held, -, own⟩
  have others {k : Issue} (hk : k ∈ s.store.issues) (target : k.target = i.target)
      (own : k.uniqId = some n) : k.id = i.id := by
    rcases sound.apart k hk i hi target (own.trans held.symm) with none_ | same
    · cases own.symm.trans none_
    · exact same
  cases effect with
  | nothing reads =>
    have writes : ¬ (r.method = "GET" ∨ r.method = "HEAD") := by
      rcases ops with hop | ⟨hop, -⟩
      · exact not_or.2 (Request.not_reads hop (by decide))
      · exact not_or.2 (Request.not_reads hop (by decide))
    exact writes (reads done)
  | create op => simp [op] at ops
  | comment op => simp [op] at ops
  | delete op reached cleared removed =>
    obtain ⟨-, same, -⟩ := Store.findIssueRow_some (h.found reached.found)
    obtain rfl := Option.some.inj (reached.named.symm.trans named)
    obtain ⟨ns, rfl⟩ := h.removeComments cleared
    obtain ⟨ns', rfl⟩ := Store.Untouched.removeIssue (h.of_marks (by rfl)) removed
    obtain ⟨mem, other⟩ := List.mem_filter.1 ho
    rw [same] at other
    exact absurd (others mem target own) (by simpa using other)
  | @update u p id i' j s' op reached entity valid updated =>
    obtain ⟨p', m, entity', sets, differs⟩ : ∃ p' m, r.entity? Patch.codec = some p'
        ∧ p'.uniqId = some m ∧ some m ≠ i.uniqId := by
      simpa [op] using ops
    obtain rfl := Option.some.inj (entity.symm.trans entity')
    obtain ⟨old, hold, rfl, -, rfl⟩ := h.updateIssue updated
    obtain ⟨-, same, -⟩ := Store.findIssueRow_some (h.found reached.found)
    obtain rfl := Option.some.inj (reached.named.symm.trans named)
    obtain ⟨-, row, -⟩ := Store.findIssueRow_some hold
    rcases Issue.mem_replaced ho with rfl | ⟨mem, other⟩
    · -- the row that was written has another unique id, or none
      have written : Patch.storedUniqId m = some n := by
        simpa [Issue.written, Patch.apply, sets] using own
      unfold Patch.storedUniqId at written
      split at written
      · cases written
      · exact differs (written.trans held.symm)
    · exact other ((others mem target own).trans (same.symm.trans row.symm))

/-- Everything about a request to file an issue is in order, but maybe its unique id. -/
structure Proposes (s : Store) (draw : Draw) (r : Request) (u : User) (p : Patch) (t : Target) :
    Prop where
  known : s.Knows r u
  op : r.operation? = some .create
  entity : r.entity? Patch.codec = some p
  named : p.target.bind Uuid.ofString? = some t.id
  valid : p.creationViolations = []
  target : t ∈ s.targets
  access : s.Entitles u t.project
  fresh : ∀ o ∈ s.issues, o.id ≠ draw.id

/-- Then the rows of the target decide, and nothing else. -/
theorem Proposes.status {config : Config} {draw : Draw} {r : Request} {s : Service} {u : User}
    {p : Patch} {t : Target} (h : s.store.Untouched) (sound : s.store.Sound)
    (hosted : s.store.Hosted) (proposes : Proposes s.store draw r u p t) :
    (s.handle config draw Faults.none r).1.status =
      if ∃ o ∈ s.store.issues, o.Holds t.id p.uniqId then 409 else 201 := by
  obtain ⟨known, op, entity, named, valid, target, access, fresh⟩ := proposes
  split
  · next held =>
    have settled := handle_create config draw h sound hosted known op
      (.held entity named valid target access held)
    rw [settled, stamp_status]
    rfl
  · next free =>
    obtain ⟨ns, settled⟩ := handle_create config draw h sound hosted known op
      (.filed entity named valid target access (by simpa using free) fresh
        ((madeOf_iff valid u.id).2 rfl))
    rw [settled, stamp_status]
    rfl

/-- After any history a request to file an issue is decided by the first check that fails,
and answered accordingly. If all is in order but its unique id, it is refused just if an
issue of the same target holds that, and else an issue is filed; so a unique id that was given
up can be used again. -/
theorem run_create_decided (config : Config) (es : List Event) :
    (∀ draw r u, (run config es).store.Knows r u → r.operation? = some .create →
      (∃ v, Reported (run config es).store r u draw v)
        ∧ ∀ v, Reported (run config es).store r u draw v →
          Settled (run config es) draw r v ((run config es).handle config draw Faults.none r))
    ∧ (∀ draw r u p t, Proposes (run config es).store draw r u p t →
      (respond config es draw r).status =
        if ∃ o ∈ (run config es).store.issues, o.Holds t.id p.uniqId then 409 else 201)
    ∧ ∀ draw faults r, ∀ i ∈ (run config es).store.issues, Frees r i →
      ((run config es).handle config draw faults r).1.isSuccess →
      ∀ draw' r' u p t,
        Proposes (run config (es ++ [.request draw faults r])).store draw' r' u p t →
        t.id = i.target → p.uniqId = i.uniqId →
        (respond config (es ++ [.request draw faults r]) draw' r').status = 201 := by
  obtain ⟨h, sound⟩ := run_intact config es
  have hosted := run_hosted config es
  refine ⟨fun draw r u known op => ?_, fun draw r u p t => Proposes.status h sound hosted, ?_⟩
  · exact ⟨reported_total _ r u draw, fun v => handle_create config draw h sound hosted known op⟩
  · intro draw faults r i hi frees done draw' r' u p t proposes home own
    obtain ⟨h', sound'⟩ := run_intact config (es ++ [.request draw faults r])
    refine (proposes.status h' sound' (run_hosted config _)).trans (if_neg ?_)
    rintro ⟨o, ho, held⟩
    rw [home, own] at held
    rw [run_concat] at ho
    exact not_holds_freed h sound hi frees done o ho held

end Service

namespace Sample

/-- A patch that asks for a unique id. -/
def naming : Patch :=
  { target := some target.text, uniqId := some "CVE-1", summary := some "leak",
    severity := some .high }

def namingRequest : Request := request "POST" "/api/v1/issues" naming

/-- The founder files an issue with a unique id, then takes the unique id away. -/
def namedOnce : List Event :=
  founding ++ [.request (draw issue) Faults.none namingRequest]

def clearing : Request := onIssue "PUT" { uniqId := some "" }

theorem run_namedOnce : Service.run config namedOnce = stockOf naming := by
  decide +kernel

end Sample

namespace Service

open Sample in
/-- The unique id is refused while the issue has it, and can be used again when it was cleared. -/
theorem run_create_decided_named :
    (respond config namedOnce (draw Uuid.zero) namingRequest).status = 409
      ∧ (respond config (namedOnce ++ [.request (draw issue) Faults.none clearing])
        (draw Uuid.zero) namingRequest).status = 201 := by
  obtain ⟨s, hs⟩ : ∃ s, run config namedOnce = s := ⟨_, rfl⟩
  obtain ⟨s', hs'⟩ : ∃ s', run config (namedOnce ++ [.request (draw issue) Faults.none clearing]) =
    s' := ⟨_, rfl⟩
  have request : namingRequest.operation? = some .create
      ∧ namingRequest.entity? Patch.codec = some naming
      ∧ naming.target.bind Uuid.ofString? = some target
      ∧ naming.creationViolations.isEmpty = true := by
    decide +kernel
  have before : s.store.caller? namingRequest = .ok (some owner)
      ∧ (∃ t ∈ s.store.targets, t.id = target ∧ s.store.Entitles owner t.project)
      ∧ (∀ o ∈ s.store.issues, o.id ≠ Uuid.zero)
      ∧ ∃ i ∈ s.store.issues, i.id = issue ∧ i.target = target ∧ i.uniqId = naming.uniqId := by
    subst hs
    rw [run_namedOnce]
    decide +kernel
  have cleared : clearing.subject? = some issue ∧ clearing.operation? = some .update
      ∧ clearing.entity? Patch.codec = some { uniqId := some "" }
      ∧ (s.handle config (draw issue) Faults.none clearing).1.isSuccess = true := by
    subst hs
    rw [run_namedOnce]
    decide +kernel
  have later : s'.store.caller? namingRequest = .ok (some owner)
      ∧ (∃ t ∈ s'.store.targets, t.id = target ∧ s'.store.Entitles owner t.project)
      ∧ ∀ o ∈ s'.store.issues, o.id ≠ Uuid.zero := by
    subst hs'
    rw [run_concat, run_namedOnce]
    decide +kernel
  obtain ⟨op, entity, named, valid⟩ := request
  obtain ⟨known, ⟨t, ht, same, access⟩, fresh, i, hi, hid, home, own⟩ := before
  obtain ⟨subject, op', entity', done⟩ := cleared
  obtain ⟨known', ⟨t', ht', same', access'⟩, fresh'⟩ := later
  have valid := List.isEmpty_iff.1 valid
  obtain ⟨-, decided, reused⟩ := run_create_decided config namedOnce
  rw [hs] at decided reused
  constructor
  · have held : ∃ o ∈ s.store.issues, o.Holds t.id naming.uniqId :=
      ⟨i, hi, home.trans same.symm, "CVE-1", rfl, by decide, own⟩
    have proposes : Proposes s.store (draw Uuid.zero) namingRequest owner naming t :=
      ⟨known, op, entity, same ▸ named, valid, ht, access, fresh⟩
    exact (decided _ _ owner naming t proposes).trans (if_pos held)
  · have frees : Frees clearing i :=
      ⟨hid ▸ subject, .inr ⟨op', _, "", entity', rfl, by rw [own]; decide⟩⟩
    have again := reused _ _ _ i hi frees done (draw Uuid.zero) namingRequest owner naming t'
    rw [hs'] at again
    exact again ⟨known', op, entity, same' ▸ named, valid, ht', access', fresh'⟩
      (same'.trans home.symm) own.symm

end Service
end IssueTracker
