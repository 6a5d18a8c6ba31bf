import IssueTracker.Service.Operations

/-! Statements that write: each of them leaves the store as it is when it fails, and
when it succeeds, it was checked what had to be and the new store is known. What is
read of a row does not depend on what is in it, so a row that was read once is read
again after an update (`updateIssue_cases`). -/

namespace IssueTracker

namespace Query

variable {α : Type} {f : Store → Except DbError (α × Store)} {s s' : Store} {a : α}

theorem write_ok : write f s = (.ok a, s') ↔ f s = .ok (a, s') := by
  unfold write
  split
  · next h => simp [h]
  · next h => simp [h]

theorem write_answer : (write f s).1 = (f s).map Prod.fst := by
  unfold write
  cases f s <;> rfl

theorem write_error {e : DbError} (h : (write f s).1 = .error e) : (write f s).2 = s := by
  unfold write at h ⊢
  split at h
  · cases h
  · rfl

end Query

theorem throw_bind {α β : Type} (e : DbError) (f : β → Except DbError α) :
    (throw e >>= f) = .error e :=
  rfl

namespace Store

/-- What a check fails with is what the statement fails with. -/
theorem need_bind_ok {α : Type} {s : Store} {ts : List Table} {f : Unit → Except DbError α}
    {a : α} : (s.need ts >>= f) = .ok a ↔ s.need ts = .ok () ∧ f () = .ok a := by
  cases s.need ts with
  | ok => simp [bind, Except.bind]
  | error => simp [bind, Except.bind]

section Views

variable {ρ : Type} {set : ρ → String → String → Option ρ}

/-- Whether a row can be read depends only on what was written into its cells. -/
theorem foldlM_isSome (uniform : ∀ r r' c t, (set r c t).isSome → (set r' c t).isSome)
    {es : List Edit} {r : ρ} :
    (es.foldlM (fun r e => set r e.column e.text) r).isSome ↔
      ∀ e ∈ es, (set r e.column e.text).isSome := by
  induction es generalizing r with
  | nil => simp
  | cons d es ih =>
    rw [List.foldlM_cons, List.forall_mem_cons]
    cases hd : set r d.column d.text with
    | none => simp
    | some q =>
      rw [Option.bind_eq_bind, Option.bind_some, ih]
      refine ⟨fun h => ⟨rfl, fun e he => uniform q r _ _ (h e he)⟩, fun h e he => ?_⟩
      exact uniform r q _ _ (h.2 e he)

/-- A row that can be read can be read with other values and fewer written cells. -/
theorem view_isOk_of_subset (uniform : ∀ r r' c t, (set r c t).isSome → (set r' c t).isSome)
    {s s' : Store} {t : Table} {id : Uuid} {row row' r : ρ}
    (sub : ∀ e ∈ s'.editsOf t id, e ∈ s.editsOf t id) (h : s.view t id set row = .ok r) :
    ∃ r', s'.view t id set row' = .ok r' := by
  unfold view at h ⊢
  split at h
  · next q hq =>
    have read := (foldlM_isSome uniform).1 (Option.isSome_iff_exists.2 ⟨q, hq⟩)
    have again : (List.foldlM (fun r e => set r e.column e.text) row' (s'.editsOf t id)).isSome :=
      (foldlM_isSome uniform).2 fun e he => uniform row row' _ _ (read e (sub e he))
    obtain ⟨q', hq'⟩ := Option.isSome_iff_exists.1 again
    rw [hq']
    exact ⟨q', rfl⟩
  · cases h

end Views

end Store

namespace Issue

theorem setCell_uniform (i j : Issue) (c t : String) (h : (i.setCell c t).isSome) :
    (j.setCell c t).isSome := by
  unfold setCell at h ⊢
  split at h <;> simp_all

theorem setCell_id {i j : Issue} {c t : String} (h : i.setCell c t = some j) (hc : c ≠ "id") :
    j.id = i.id := by
  unfold setCell at h
  split at h
  case h_1 => exact absurd rfl hc
  all_goals first
    | (obtain ⟨v, -, rfl⟩ := Option.map_eq_some_iff.1 h; rfl)
    | cases h

end Issue

namespace Store

variable {s s' : Store} {i j : Issue} {id : Uuid}

theorem viewIssue_id (own : s.edited .issues i.id "id" = none) (h : s.viewIssue i = .ok j) :
    j.id = i.id := by
  have own : ∀ e ∈ s.editsOf .issues i.id, e.column ≠ "id" := by
    intro e he hc
    simp only [edited, Option.map_eq_none_iff, List.find?_eq_none] at own
    obtain ⟨he, hr⟩ := List.mem_filter.1 he
    exact own e he (by simp_all)
  have fold : ∀ (es : List Edit) (r q : Issue), (∀ e ∈ es, e.column ≠ "id") →
      es.foldlM (fun r e => Issue.setCell r e.column e.text) r = some q → q.id = r.id := by
    intro es
    induction es with
    | nil =>
      intro r q _ h
      rw [Option.some.inj h]
    | cons d es ih =>
      intro r q hes h
      rw [List.foldlM_cons] at h
      obtain ⟨m, hm, h⟩ := Option.bind_eq_some_iff.1 h
      exact (ih m q (fun e he => hes e (List.mem_cons_of_mem _ he)) h).trans
        (Issue.setCell_id hm (hes d List.mem_cons_self))
  unfold viewIssue view at h
  split at h
  · next q hq =>
    cases h
    exact fold _ _ _ own hq
  · cases h

theorem findIssueRow_some (h : s.findIssueRow id = some i) :
    i ∈ s.issues ∧ i.id = id ∧ s.edited .issues i.id "id" = none := by
  have := List.find?_some h
  simp only [Bool.and_eq_true, beq_iff_eq, Option.isNone_iff_eq_none] at this
  exact ⟨List.mem_of_find?_eq_some h, this⟩

theorem findIssue_ok : (findIssue id s).1 = .ok (some i) ↔
    s.need [.issues] = .ok () ∧ ∃ row, s.findIssueRow id = some row ∧ s.viewIssue row = .ok i := by
  change (do s.need [.issues]; _) = Except.ok (some i) ↔ _
  rw [need_bind_ok]
  cases s.findIssueRow id with
  | none => simp [pure, Except.pure]
  | some row => cases h : s.viewIssue row <;> simp [h, bind, Except.bind, pure, Except.pure]

/-- An update of an issue that was found leaves the store as it is, or its row is read back. -/
theorem updateIssue_cases (found : (findIssue id s).1 = .ok (some i)) (p : Patch)
    (now : Timestamp) : (updateIssue (p.apply i) now s).2 = s ∨
      ∃ j, (updateIssue (p.apply i) now s).1 = .ok (some j) := by
  obtain ⟨-, row, hrow, hview⟩ := findIssue_ok.1 found
  obtain ⟨-, rfl, own⟩ := findIssueRow_some hrow
  have same : i.id = row.id := viewIssue_id own hview
  unfold updateIssue
  rw [show (p.apply i).id = row.id from same, hrow]
  split
  · exact .inl rfl
  dsimp only
  split
  · exact .inl rfl
  right
  -- the cells that are still written by hand were read when the issue was found
  have kept : ∀ e ∈ ((s.putIssue ((p.apply i).written row now)).forgetCells .issues row.id
      Issue.mutableColumns).editsOf .issues row.id, e ∈ s.editsOf .issues row.id := by
    intro e he
    simp only [editsOf, forgetCells, putIssue, List.mem_filter] at he ⊢
    exact ⟨he.1.1, he.2⟩
  obtain ⟨j, hj⟩ := view_isOk_of_subset Issue.setCell_uniform kept hview
  exact ⟨j, congrArg (Except.map some) hj⟩

end Store
end IssueTracker
