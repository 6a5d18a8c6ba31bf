import IssueTracker.Proofs.Integrity

/-! Summaries are written late, by a worker, and only for targets that were submitted.
After every history a target that is not waiting for the worker has exact counts: a
request that moves an issue between the counts of its target submits that target, and
the other counts stay as they were. -/

namespace IssueTracker

namespace Patch

theorem getD_of_differs {α : Type} [DecidableEq α] {new : Option α} {old : α}
    (h : differs new old = false) : new.getD old = old := by
  cases new with
  | none => rfl
  | some a => simpa [differs] using h

/-- A patch that does not affect the summary leaves what is counted. -/
theorem counted_apply {p : Patch} {i : Issue} (h : p.affectsSummary i = false) :
    (p.apply i).severity = i.severity ∧ (p.apply i).isOpen = i.isOpen := by
  simp only [affectsSummary, Bool.or_eq_false_iff] at h
  obtain ⟨⟨⟨severity, falsePositive⟩, muted⟩, resolved⟩ := h
  unfold Issue.isOpen apply
  dsimp only
  rw [getD_of_differs severity, getD_of_differs falsePositive, getD_of_differs muted,
    getD_of_differs resolved]
  exact ⟨rfl, rfl⟩

end Patch

namespace Store

variable {s s' : Store} {i j : Issue} {target : Uuid} {v : Summary}

theorem Tallies.congr (h : s.Tallies target v)
    (same : ∀ w, s'.openCount target w = s.openCount target w) : s'.Tallies target v := by
  intro w
  rw [same]
  exact h w

/-- The counters are the numbers themselves, as long as these are in range. -/
theorem Tallies.toInt (h : s.Tallies target v) {w : Severity}
    (small : s.openCount target w ≤ Int64.maxValue.toInt) :
    (v.get w).toInt = s.openCount target w := by
  have greatest : Int64.maxValue.toInt = 9223372036854775807 := rfl
  rw [h w]
  refine Int64.toInt_ofNat_of_lt ?_
  omega

section Counts

variable {ns : List RowNumber} {cs : List Comment} {w : Severity}

theorem openCount_of_none (h : ∀ i ∈ s.issues, i.target ≠ target) : s.openCount target w = 0 := by
  refine List.countP_eq_zero.2 fun i hi counted => ?_
  simp only [Bool.and_eq_true, beq_iff_eq] at counted
  exact h i hi counted.1.1

theorem openCount_concat (h : i.target ≠ target) :
    openCount { s with issues := s.issues ++ [i], numbers := ns } target w =
      s.openCount target w := by
  unfold openCount
  rw [List.countP_append, List.countP_singleton, beq_eq_false_iff_ne.2 h]
  rfl

theorem openCount_filter (h : s.Sound) (old : i ∈ s.issues) (other : i.target ≠ target) :
    openCount { s with
      issues := s.issues.filter fun o => o.id != i.id
      comments := cs
      numbers := ns } target w = s.openCount target w := by
  unfold openCount
  rw [List.countP_filter]
  refine List.countP_congr fun o ho => ?_
  by_cases same : o.id = i.id
  · obtain rfl := h.eq_of_id ho old same
    simp [other]
  · simp [same]

theorem openCount_replaced (h : s.Sound) (old : i ∈ s.issues) (id : j.id = i.id)
    (counted : (j.target == target && j.isOpen && j.severity == w) =
      (i.target == target && i.isOpen && i.severity == w)) :
    openCount { s with issues := j.replaced s.issues } target w = s.openCount target w := by
  unfold openCount Issue.replaced
  rw [List.countP_map]
  refine List.countP_congr fun o ho => ?_
  by_cases same : o.id = j.id
  · obtain rfl := h.eq_of_id ho old (same.trans id)
    simp only [Function.comp, same, beq_self_eq_true, if_true, counted]
  · simp [same]

end Counts

end Store

namespace Service

/-- Every target has exact counts, or waits for the worker. -/
def Tallied (s : Service) : Prop :=
  ∀ t ∈ s.store.targets, s.store.Tallies t.id t.summary ∨ t.id ∈ s.queue

section Targets

variable {s : Service} {store : Store} {t : Target}

/-- A target that is not submitted keeps its exact counts when these did not change. -/
theorem counted_of_others {q : List Uuid} (h : s.store.Tallies t.id t.summary ∨ t.id ∈ s.queue)
    (others : ∀ x w, x ∉ q → store.openCount x w = s.store.openCount x w) :
    store.Tallies t.id t.summary ∨ t.id ∈ s.queue ++ q := by
  by_cases submitted : t.id ∈ q
  · exact .inr (List.mem_append_right _ submitted)
  · rcases h with counted | queued
    · exact .inl (counted.congr fun w => others t.id w submitted)
    · exact .inr (List.mem_append_left _ queued)

/-- A worker that may try, and that storage does not fail, does not give up. -/
theorem leaves_of_steady {config : Config} {e : Event} {x : Uuid} {now : Timestamp}
    (attempts : 1 ≤ config.attempts) (steady : e.Steady)
    (leaves : Recompute.Leaves (¬ e.Steady ∨ config.attempts = 0) s.store x now store) :
    Recompute.Leaves False s.store x now store := by
  have fails : ¬ (¬ e.Steady ∨ config.attempts = 0) := by
    rintro (unsteady | none_)
    · exact unsteady steady
    · omega
  rwa [eq_false fails] at leaves

/-- The worker gives exact counts to the first target that waits. -/
theorem counted_of_work {x : Uuid} {rest : List Uuid} {now : Timestamp}
    (untouched : s.store.Untouched) (front : s.queue = x :: rest)
    (leaves : Recompute.Leaves False s.store x now store) (ht : t ∈ store.targets)
    (h : t ∈ s.store.targets → s.store.Tallies t.id t.summary ∨ t.id ∈ s.queue) :
    store.Tallies t.id t.summary ∨ t.id ∈ rest := by
  have same (w : Severity) : store.openCount t.id w = s.store.openCount t.id w := by
    obtain ⟨ts, rfl⟩ := leaves.retargets untouched
    rfl
  rcases leaves.targets untouched id ht with ⟨rfl, counted⟩ | ⟨old, other⟩
  · exact .inl (counted.congr same)
  · rcases h old with counted | queued
    · exact .inl (counted.congr same)
    · rw [front] at queued
      exact .inr (List.mem_of_ne_of_mem other queued)

end Targets

section Steps

variable {config : Config} {s s' : Service} {e : Event}

/-- Requests leave targets as they are. -/
theorem Turn.targets {draw : Draw} {r : Request} {s store : Store} {o : Outcome}
    (turn : Turn draw r s o store) : store.targets = s.targets := by
  cases turn <;> rfl

/-- A request moves no issue between the counts of a target that it does not submit. -/
theorem Turn.openCount {draw : Draw} {r : Request} {s store : Store} {o : Outcome}
    (sound : s.Sound) (turn : Turn draw r s o store) (x : Uuid) (w : Severity)
    (hx : x ∉ o.submit.toList) : store.openCount x w = s.openCount x w := by
  cases turn with
  | nothing => rfl
  | create => exact Store.openCount_concat (by simpa [eq_comm] using hx)
  | @update p i j op named old made apart =>
    subst made
    refine Store.openCount_replaced sound old rfl ?_
    cases affects : p.affectsSummary i with
    | false =>
      -- nothing that is counted was changed
      obtain ⟨severity, open_⟩ := Patch.counted_apply affects
      change ((p.apply i).target == x && (p.apply i).isOpen && (p.apply i).severity == w) = _
      rw [severity, open_]
      rfl
    | true =>
      have other : x ≠ i.target := by
        intro same
        exact hx (by simp [affects, same, Patch.apply])
      change (i.target == x && _ && _) = _
      rw [beq_eq_false_iff_ne.2 other.symm]
      rfl
  | delete _ _ old => exact Store.openCount_filter sound old (by simpa [eq_comm] using hx)
  | comment => rfl

theorem Turn.tallied {draw : Draw} {r : Request} {o : Outcome} {store : Store}
    (sound : s.store.Sound) (h : s.Tallied) (turn : Turn draw r s.store o store) :
    Tallied ⟨store, s.queue ++ o.submit.toList⟩ := by
  intro t ht
  change t ∈ store.targets at ht
  rw [turn.targets] at ht
  exact counted_of_others (h t ht) (turn.openCount sound)

theorem tallied_enter {store : Store} (sound : s.store.Sound) (h : s.Tallied)
    (entered : Store.Entered s.store store) : Tallied ⟨store, s.queue⟩ := by
  have same (x : Uuid) (w : Severity) : store.openCount x w = s.store.openCount x w := by
    unfold Store.openCount
    rw [entered.issues]
  intro t ht
  change t ∈ store.targets at ht
  have known : t ∈ s.store.targets → s.store.Tallies t.id t.summary ∨ t.id ∈ s.queue := h t
  rcases entered.targets with old | ⟨new, empty, fresh, more⟩
  · rw [old] at ht
    exact (known ht).imp_left fun counted => counted.congr (same t.id)
  · rw [more] at ht
    rcases List.mem_append.1 ht with ht | ht
    · exact (known ht).imp_left fun counted => counted.congr (same t.id)
    · obtain rfl := List.mem_singleton.1 ht
      -- no issue is of a target that was not there
      have none_ : ∀ i ∈ s.store.issues, i.target ≠ t.id := by
        intro i hi ht
        obtain ⟨o, ho, home, -⟩ := sound.homed i hi
        exact fresh o ho (home.trans ht)
      refine .inl fun w => ?_
      rw [same, Store.openCount_of_none none_, empty]
      cases w <;> rfl

theorem Step.tallied (attempts : 1 ≤ config.attempts) (steady : e.Steady)
    (untouched : s.store.Untouched) (sound : s.store.Sound) (h : s.Tallied)
    (step : Step config s e s') : s'.Tallied := by
  cases step with
  | enter entered => exact tallied_enter sound h entered
  | request turn => exact turn.tallied sound h
  | idle => exact h
  | @work now faults t rest store front leaves =>
    have leaves := leaves_of_steady attempts steady leaves
    exact fun t ht => counted_of_work untouched front leaves ht (h t)

end Steps

/-- After every history in which storage does not fail the worker, a target has exact
counts unless it waits in the queue; when nothing waits, every counter is the number of
open issues of its severity. -/
theorem run_tallied (config : Config) (attempts : 1 ≤ config.attempts) (es : List Event)
    (steady : ∀ e ∈ es, e.Steady) :
    (∀ t ∈ (run config es).store.targets,
      (run config es).store.Tallies t.id t.summary ∨ t.id ∈ (run config es).queue)
    ∧ ((run config es).queue = [] → ∀ t ∈ (run config es).store.targets, ∀ w,
      (run config es).store.openCount t.id w ≤ Int64.maxValue.toInt →
        (t.summary.get w).toInt = (run config es).store.openCount t.id w) := by
  have both : (run config es).store.Sound ∧ (run config es).Tallied := by
    refine run_steps (P := fun s => s.store.Sound ∧ s.Tallied) ⟨sound_empty, ?_⟩ ?_ es steady
    · intro t ht
      cases ht
    intro s e s' untouched h steady step
    exact ⟨step.sound untouched h.1, step.tallied attempts steady untouched h.1 h.2⟩
  refine ⟨both.2, fun empty t ht w small => ?_⟩
  rcases both.2 t ht with counted | queued
  · exact counted.toInt small
  · rw [empty] at queued
    cases queued

open Sample in
/-- The worker has counted the issue that was filed. -/
theorem run_tallied_worked :
    ((run config worked).store.targets.map fun t => t.summary.high) = [1]
      ∧ ∀ t ∈ (run config worked).store.targets, ∀ w,
        (run config worked).store.openCount t.id w ≤ Int64.maxValue.toInt →
        (t.summary.get w).toInt = (run config worked).store.openCount t.id w := by
  have steady : ∀ e ∈ worked, e.Steady := by
    simp only [worked, founding, filing, List.cons_append, List.nil_append, List.forall_mem_cons]
    exact ⟨trivial, trivial, trivial, trivial, trivial, fun _ _ => rfl, by simp⟩
  have settled : (run config worked).queue = []
      ∧ ((run config worked).store.targets.map fun t => t.summary.high) = [1] := by
    rw [run_worked]
    decide +kernel
  exact ⟨settled.2, (run_tallied config (by decide) worked steady).2 settled.1⟩

end Service
end IssueTracker
