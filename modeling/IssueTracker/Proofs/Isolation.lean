import IssueTracker.Proofs.Access
import IssueTracker.Proofs.Integrity

/-! Callers change nothing of the projects that are closed to them: not by what they ask
for, and not by what the worker does for them afterwards. A request reaches at most one
project, the one that its caller was let into, and submits a target of that project; since
no two targets have the same id, the summary that is recomputed is of that project too. -/

namespace IssueTracker

/-- What there is of a project, each in the order of its table: its issues, the comments
on them and its targets. -/
structure Holdings where
  issues : List Issue
  comments : List Comment
  targets : List Target
  deriving DecidableEq

/-- Rows that are not selected may be replaced by others that are not. -/
theorem filter_map_of_unselected {α : Type} {p : α → Bool} {f : α → α} {l : List α}
    (h : ∀ a ∈ l, f a = a ∨ p a = false ∧ p (f a) = false) :
    (l.map f).filter p = l.filter p := by
  induction l with
  | nil => rfl
  | cons a l ih =>
    obtain ⟨ha, hl⟩ := List.forall_mem_cons.1 h
    rw [List.map_cons, List.filter_cons, List.filter_cons, ih hl]
    rcases ha with same | ⟨old, new⟩
    · rw [same]
    · rw [old, new]
      rfl

namespace Store

/-- The comment is linked to an issue of the project. -/
def Regards (s : Store) (project : Uuid) (c : Comment) : Prop :=
  ∃ i ∈ s.issues, i.id = c.link ∧ i.project = project

instance (s : Store) (project : Uuid) (c : Comment) : Decidable (s.Regards project c) :=
  inferInstanceAs (Decidable (∃ i ∈ s.issues, _))

def holdings (s : Store) (project : Uuid) : Holdings where
  issues := s.issues.filter fun i => i.project = project
  comments := s.comments.filter fun c => s.Regards project c
  targets := s.targets.filter fun t => t.project = project

section Writes

variable {s : Store} {project : Uuid} {i j : Issue} {ns : List RowNumber}

theorem holdings_addIssue (other : i.project ≠ project) :
    holdings { s with issues := s.issues ++ [i], numbers := ns } project = s.holdings project := by
  have regards (c : Comment) :
      Regards { s with issues := s.issues ++ [i], numbers := ns } project c ↔
        s.Regards project c := by
    simp [Regards, or_and_right, exists_or, other]
  simp [holdings, regards, other]

theorem holdings_replaceIssue (sound : s.Sound) (old : i ∈ s.issues)
    (same : j.id = i.id ∧ j.project = i.project) (other : i.project ≠ project) :
    holdings { s with issues := j.replaced s.issues } project = s.holdings project := by
  have hit {o : Issue} (ho : o ∈ s.issues) (hid : o.id = j.id) : o.project ≠ project := by
    rwa [sound.eq_of_id ho old (hid.trans same.1)]
  have regards (c : Comment) :
      Regards { s with issues := j.replaced s.issues } project c ↔ s.Regards project c := by
    constructor
    · rintro ⟨o, ho, link, home⟩
      rcases Issue.mem_replaced ho with rfl | ⟨ho, -⟩
      · exact absurd (same.2.symm.trans home) other
      · exact ⟨o, ho, link, home⟩
    · rintro ⟨o, ho, link, home⟩
      exact ⟨o, Issue.mem_replaced_of_ne ho fun hid => hit ho hid home, link, home⟩
  have issues : (j.replaced s.issues).filter (fun i => i.project = project) =
      s.issues.filter fun i => i.project = project := by
    refine filter_map_of_unselected fun o ho => ?_
    by_cases hid : o.id = j.id
    · exact .inr (by simp [hid, hit ho hid, same.2, other])
    · exact .inl (by simp [hid])
  simp only [holdings, regards, issues]

theorem holdings_removeIssue {s' : Store} (sound : s.Sound) (old : i ∈ s.issues)
    (other : i.project ≠ project) (issues : s'.issues = s.issues.filter fun o => o.id != i.id)
    (comments : s'.comments = s.comments.filter fun c => c.link != i.id)
    (targets : s'.targets = s.targets) : s'.holdings project = s.holdings project := by
  have apart {o : Issue} (ho : o ∈ s.issues) (home : o.project = project) : o.id ≠ i.id := by
    intro hid
    rw [sound.eq_of_id ho old hid] at home
    exact other home
  -- a comment on an issue of the project is not on the one that is removed
  have regards (c : Comment) : (s'.Regards project c ∧ c.link ≠ i.id) ↔ s.Regards project c := by
    constructor
    · rintro ⟨⟨o, ho, link, home⟩, -⟩
      rw [issues] at ho
      exact ⟨o, (List.mem_filter.1 ho).1, link, home⟩
    · rintro ⟨o, ho, link, home⟩
      have ne := apart ho home
      refine ⟨⟨o, ?_, link, home⟩, link ▸ ne⟩
      rw [issues]
      exact List.mem_filter.2 ⟨ho, by simpa using ne⟩
  rw [holdings, holdings, issues, comments, targets, List.filter_filter, List.filter_filter]
  congr 1
  · refine List.filter_congr fun o ho => ?_
    by_cases home : o.project = project
    · simp [home, apart ho home]
    · simp [home]
  · refine List.filter_congr fun c _ => ?_
    rw [← decide_eq_decide.2 (regards c), Bool.decide_and]
    by_cases link : c.link = i.id <;> simp [link]

theorem holdings_addComment {c : Comment} (sound : s.Sound) (old : i ∈ s.issues)
    (link : c.link = i.id) (other : i.project ≠ project) :
    holdings { s with comments := s.comments ++ [c], numbers := ns } project =
      s.holdings project := by
  have not_ : ¬ s.Regards project c := by
    rintro ⟨o, ho, same, home⟩
    rw [sound.eq_of_id ho old (same.trans link)] at home
    exact other home
  have comments : (s.comments ++ [c]).filter (fun c => s.Regards project c) =
      s.comments.filter fun c => s.Regards project c := by
    simp [not_]
  rw [holdings, holdings]
  exact congrArg (Holdings.mk _ · _) comments

theorem holdings_putSummary (h : s.Untouched) {t : Uuid} (v : Summary) (now : Timestamp)
    (others : ∀ o ∈ s.targets, o.id = t → o.project ≠ project) :
    (s.putSummary t v now).holdings project = s.holdings project := by
  rw [h.putSummary]
  refine congrArg (Holdings.mk _ _) (filter_map_of_unselected fun o ho => ?_)
  by_cases hid : o.id = t
  · exact .inr (by simp [hid, others o ho hid])
  · exact .inl (by simp [hid])

end Writes

end Store

namespace Service

/-- Nothing that waits for the worker is of the project. -/
def Spares (s : Service) (project : Uuid) : Prop :=
  ∀ t ∈ s.queue, ∀ o ∈ s.store.targets, o.id = t → o.project ≠ project

section Requests

variable {draw : Draw} {r : Request} {s s' : Store} {o : Outcome} {project : Uuid}

/-- A caller to whom a project is closed changes nothing of it and submits none of its
targets. -/
theorem Effect.spares (h : s.Untouched) (sound : s.Sound)
    (closed : ∀ u, s.Knows r u → ¬ s.Entitles u project) (e : Effect draw r s o s') :
    s'.holdings project = s.holdings project
      ∧ Spares ⟨s', o.submit.toList⟩ project := by
  have other {u : User} {p : Uuid} (known : s.Knows r u) (admitted : s.Admits u p) :
      p ≠ project := by
    rintro rfl
    exact closed u known (h.admits_iff.1 admitted)
  have target {t x : Target} (ht : t ∈ s.targets) (hx : x ∈ s.targets) (same : x.id = t.id) :
      x = t :=
    List.inj_on_of_nodup_map sound.targetIds hx ht same
  -- the targets of an issue's target's id are of the issue's project
  have home {i : Issue} (hi : i ∈ s.issues) (away : i.project ≠ project) {x : Target}
      (hx : x ∈ s.targets) (same : x.id = i.target) : x.project ≠ project := by
    obtain ⟨t, ht, id, own⟩ := sound.homed i hi
    rw [target ht hx (same.trans id.symm), own]
    exact away
  cases e with
  | nothing => exact ⟨rfl, by simp [Spares]⟩
  | @create u p id t i s' op known _ _ _ found admitted added =>
    obtain ⟨rfl, -, -, ns, rfl⟩ := h.addIssue added
    have away := other known admitted
    refine ⟨Store.holdings_addIssue away, fun x hx o ho same => ?_⟩
    obtain rfl := List.mem_singleton.1 hx
    rw [target (h.findTarget found).1 ho same]
    exact away
  | update op reached _ _ updated =>
    obtain ⟨old, hold, rfl, -, rfl⟩ := h.updateIssue updated
    have found := h.found reached.found
    obtain ⟨mem, rfl, -⟩ := Store.findIssueRow_some found
    obtain rfl : _ = old := Option.some.inj (found.symm.trans hold)
    have away := other reached.known reached.admitted
    refine ⟨Store.holdings_replaceIssue sound mem ⟨rfl, rfl⟩ away, fun x hx o ho same => ?_⟩
    obtain ⟨-, hx⟩ := Option.ite_none_right_eq_some.1 (Option.mem_toList.1 hx)
    exact home mem away ho (same.trans (Option.some.inj hx).symm)
  | delete op reached cleared removed =>
    obtain ⟨mem, rfl, -⟩ := Store.findIssueRow_some (h.found reached.found)
    obtain ⟨ns, rfl⟩ := h.removeComments cleared
    obtain ⟨ns', rfl⟩ := Store.Untouched.removeIssue (h.of_marks (by rfl)) removed
    have away := other reached.known reached.admitted
    refine ⟨Store.holdings_removeIssue sound mem away rfl rfl rfl, fun x hx o ho same => ?_⟩
    obtain rfl := List.mem_singleton.1 hx
    exact home mem away ho same
  | comment op reached _ _ added =>
    obtain ⟨mem, rfl, -⟩ := Store.findIssueRow_some (h.found reached.found)
    obtain ⟨rfl, -, -, ns, rfl⟩ := h.addComment added
    have away := other reached.known reached.admitted
    exact ⟨Store.holdings_addComment sound mem rfl away, by simp [Spares]⟩

end Requests

section Draining

variable {config : Config} {s : Service} {project : Uuid}

/-- The worker takes one target after another, each time with a reading of the clock and
failures of its own. -/
def drain (config : Config) (s : Service) (ws : List (Timestamp × (Nat → Faults))) : Service :=
  ws.foldl (fun s w => s.work config w.1 w.2) s

theorem work_queue (config : Config) (s : Service) (now : Timestamp) (faults : Nat → Faults) :
    (s.work config now faults).queue = s.queue.tail := by
  rw [work]
  split
  · next none_ => rw [none_]; rfl
  · next front => rw [front]; rfl

/-- Every turn takes a target from the queue, whatever comes of it. -/
theorem drain_queue (config : Config) (s : Service) (ws : List (Timestamp × (Nat → Faults))) :
    (drain config s ws).queue = s.queue.drop ws.length := by
  induction ws generalizing s with
  | nil => rfl
  | cons w ws ih =>
    refine (ih _).trans ?_
    rw [work_queue, List.length_cons, List.drop_tail]

theorem work_spares (h : s.store.Untouched) (spares : s.Spares project) (now : Timestamp)
    (faults : Nat → Faults) :
    (s.work config now faults).store.holdings project = s.store.holdings project
      ∧ (s.work config now faults).Spares project := by
  rcases work_cases h now faults with
    ⟨-, same⟩ | ⟨t, rest, store, front, leaves, worked⟩
  · rw [same]
    exact ⟨rfl, spares⟩
  · rw [worked]
    have others : ∀ o ∈ s.store.targets, o.id = t → o.project ≠ project :=
      spares t (front ▸ List.mem_cons_self)
    have later : ∀ x ∈ rest, ∀ o ∈ s.store.targets, o.id = x → o.project ≠ project :=
      fun x hx => spares x (front ▸ List.mem_cons_of_mem _ hx)
    rcases leaves with ⟨rfl, -⟩ | ⟨v, -, rfl⟩
    · exact ⟨rfl, later⟩
    · refine ⟨Store.holdings_putSummary h v now others, fun x hx o' ho' => ?_⟩
      -- a target keeps its id and its project when its summary is written
      dsimp only at ho'
      rw [h.putSummary] at ho'
      obtain ⟨o, ho, rfl⟩ := List.mem_map.1 ho'
      have kept := later x hx o ho
      split <;> exact kept

theorem drain_spares (h : s.store.Untouched) (spares : s.Spares project)
    (ws : List (Timestamp × (Nat → Faults))) :
    (drain config s ws).store.holdings project = s.store.holdings project := by
  induction ws generalizing s with
  | nil => rfl
  | cons w ws ih =>
    obtain ⟨kept, still⟩ := work_spares h spares w.1 w.2
    exact (ih ((work_step h w.1 w.2).untouched h) still).trans kept

end Draining

/-- Nothing of a project that is closed to the caller is changed by a request, whatever it
asks for and whatever fails, nor by the worker after it. -/
theorem drain_handle_holdings (config : Config) (es : List Event)
    (idle : (run config es).queue = []) (project : Uuid) (u : User)
    (closed : ¬ (run config es).store.Entitles u project) (draw : Draw) (faults : Faults)
    (r : Request) (known : (run config es).store.Knows r u)
    (ws : List (Timestamp × (Nat → Faults))) :
    (drain config ((run config es).handle config draw faults r).2 ws).store.holdings project =
      (run config es).store.holdings project := by
  have h := run_untouched config es
  obtain ⟨o, store, effect, he⟩ := handle_eq config draw faults r (run config es)
  obtain ⟨kept, spares⟩ := effect.spares h (run_intact config es).sound fun v hv => by
    rwa [hv.unique known]
  rw [he, idle, List.nil_append]
  exact (drain_spares ((effect.turn h).untouched h) spares ws).trans kept

open Sample in
/-- The stranger cannot delete the owner's issue. -/
theorem drain_handle_holdings_stranger :
    ((run config (worked ++ arrival)).store.holdings project.id).issues.map Issue.id = [issue]
      ∧ (drain config ((run config (worked ++ arrival)).handle config (draw issue) Faults.none
          (byStranger (onIssue "DELETE" {}))).2 [(start, fun _ => Faults.none)]).store.holdings
            project.id = (run config (worked ++ arrival)).store.holdings project.id := by
  have before : ((run config (worked ++ arrival)).store.holdings project.id).issues.map Issue.id =
        [issue]
      ∧ (run config (worked ++ arrival)).queue = []
      ∧ ¬ (run config (worked ++ arrival)).store.Entitles stranger project.id
      ∧ (run config (worked ++ arrival)).store.caller? (byStranger (onIssue "DELETE" {})) =
        .ok (some stranger) := by
    rw [run_arrival]
    decide +kernel
  obtain ⟨there, idle, closed, known⟩ := before
  exact ⟨there, drain_handle_holdings config _ idle _ stranger closed _ _ _ known _⟩

end Service
end IssueTracker
